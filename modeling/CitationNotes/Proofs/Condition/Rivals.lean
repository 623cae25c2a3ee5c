import Mathlib.Data.List.Nodup
import CitationNotes.Proofs.Condition.Ruins

/-!
Fields whose order matters.

A piece of text falls to the longest name in it, so the order of the fields shows in one place only.
The negation of an empty field is longer than the name by its sign, and if it begins with another
name, as long as the first, the two are rivals.
-/

namespace CitationNotes.Condition

open Text

variable {fields fields' : List Field} {f g : Field} {x : Text}

/-- The negation of an empty field begins with another name of the same length, and there is no
field that is called like the negation and would come before both. -/
def Contested (fields : List Field) (f : Field) : Prop :=
  f.isFilled = false ∧ (∃ g ∈ fields, g.name = '!' :: f.name.dropLast ∧ g.name ≠ f.name) ∧
    ∀ h ∈ fields, h.name ≠ '!' :: f.name

instance (fields : List Field) (f : Field) : Decidable (Contested fields f) :=
  inferInstanceAs (Decidable (_ ∧ _ ∧ _))

/-- What lies in a text that is longer by a sign is the rest of the text, or leaves out its last
character. -/
lemma eq_of_isInfix_cons {n m : Text} {c : Char} (h : n <:+: c :: m) (hlen : n.length = m.length)
    (hne : m ≠ []) : n = m ∨ n = c :: m.dropLast := by
  rcases List.infix_cons_iff.1 h with hp | hi
  · right
    obtain ⟨d, t, rfl⟩ : ∃ d t, n = d :: t :=
      List.exists_cons_of_ne_nil fun hn => hne (List.eq_nil_of_length_eq_zero (by simp [← hlen, hn]))
    obtain ⟨rfl, ht⟩ := List.cons_prefix_cons.1 hp
    rw [List.length_cons] at hlen
    rw [List.prefix_iff_eq_take.1 ht, List.dropLast_eq_take, ← hlen]
    simp
  · exact .inl (hi.eq_of_length hlen)

section Perm

variable (hp : fields'.Perm fields) (hd : (fields.map Field.name).Nodup)

include hp

lemma mem_turns_of_perm : f ∈ turns fields' ↔ f ∈ turns fields := by
  rw [mem_turns, mem_turns, hp.mem_iff]

include hd

/-- Text that becomes the true word does so in any order, unless there are rivals. -/
lemma taker?_eq_of_settles (hc : ∀ f ∈ fields, ¬ Contested fields f)
    (h : taker? fields x = some f) (hs : Settles f x true) : taker? fields' x = some f := by
  have hf := mem_of_taker? h
  have hx := (exists_turns_of_taker? h).1
  rcases h' : taker? fields' x with _ | g
  · exact absurd hx (taker?_eq_none_iff.1 h' f ((mem_turns_of_perm hp).2 hf))
  have hg := (mem_turns_of_perm hp).1 (mem_of_taker? h')
  have hgx := (exists_turns_of_taker? h').1
  have hlen : g.name.length = f.name.length :=
    (length_le_of_taker? h hg hgx).antisymm
      (length_le_of_taker? h' ((mem_turns_of_perm hp).2 hf) hx)
  have hsame (he : g.name = f.name) : g = f :=
    List.inj_on_of_nodup_map hd (mem_turns.1 hg).1 (mem_turns.1 hf).1 he
  rcases hs with ⟨rfl, -⟩ | ⟨rfl, hempty⟩
  · -- the name itself
    rw [hsame (hgx.eq_of_length hlen)]
  · -- the negation of an empty field
    rcases eq_of_isInfix_cons hgx hlen (mem_turns.1 hf).2 with he | he
    · rw [hsame he]
    by_contra hne
    refine hc f (mem_turns.1 hf).1 ⟨by simpa using hempty.symm, ⟨g, (mem_turns.1 hg).1, he, ?_⟩, ?_⟩
    · exact fun hn => hne (by rw [hsame hn])
    · intro i hi hin
      have hi' : i ∈ turns fields := mem_turns.2 ⟨hi, by simp [hin]⟩
      have := length_le_of_taker? h hi' (hin ▸ List.infix_rfl)
      rw [hin, List.length_cons] at this
      omega

lemma atMost_substitute_of_perm (hc : ∀ f ∈ fields, ¬ Contested fields f) (x : Text) :
    AtMost (substitute x fields) (substitute x fields') := by
  rcases h : taker? fields x with _ | f
  · left
    have h' : taker? fields' x = none := by
      rw [taker?_eq_none_iff] at h ⊢
      exact fun f hf => h f ((mem_turns_of_perm hp).1 hf)
    rw [substitute_of_taker?_eq_none h, substitute_of_taker?_eq_none h']
  · by_cases hs : Settles f x true
    · left
      rw [substitute_of_taker? h hs, substitute_of_taker? (taker?_eq_of_settles hp hd hc h hs) hs]
    · right
      by_cases hs' : Settles f x false
      · rw [substitute_of_taker? h hs']
        exact ruined_word_false
      · exact ruined_of_taker? h (Bool.forall_bool.2 ⟨hs', hs⟩)

/-- **Without rivals, the order of the fields does not matter** to any condition. -/
theorem holds_perm (hf : ∀ f ∈ fields, ∀ c ∈ f.name, isMark c = false)
    (hc : ∀ f ∈ fields, ¬ Contested fields f) (t : Text) :
    holds t fields' = holds t fields := by
  have hf' : ∀ f ∈ fields', ∀ c ∈ f.name, isMark c = false := fun f hm => hf f (hp.mem_iff.1 hm)
  have hd' : (fields'.map Field.name).Nodup := (hp.map Field.name).nodup_iff.2 hd
  have hc' : ∀ f ∈ fields', ¬ Contested fields' f := by
    intro f hm hcontested
    refine hc f (hp.mem_iff.1 hm) ?_
    simpa only [Contested, hp.mem_iff] using hcontested
  rw [Bool.eq_iff_iff]
  exact ⟨holds_of_holds hf' hf fun x _ _ => atMost_substitute_of_perm hp.symm hd' hc' x,
    holds_of_holds hf hf' fun x _ _ => atMost_substitute_of_perm hp hd hc x⟩

end Perm

/-! ### Each rival first -/

/-- Of the longest names in a text, a field in front of all others takes it. -/
lemma taker?_cons (hne : f.name ≠ []) (hx : f.name <:+: x)
    (hlong : ∀ g ∈ fields, g.name <:+: x → g.name.length ≤ f.name.length) :
    taker? (f :: fields) x = some f := by
  refine taker?_eq_some_iff.2 ⟨hne, List.forall_mem_cons.2 ⟨fun _ => le_rfl, hlong⟩, ?_⟩
  rw [List.find?_cons_of_pos]
  simp [occurs_iff.2 hx]

namespace Contested

lemma length_le (h : Contested fields f) (hg : g ∈ fields) (hx : g.name <:+: '!' :: f.name) :
    g.name.length ≤ f.name.length := by
  have hlen := hx.length_le
  rw [List.length_cons] at hlen
  by_contra hlong
  refine h.2.2 g hg (hx.eq_of_length ?_)
  rw [List.length_cons]
  omega

/-- The negation holds or not by which of the rivals comes first. -/
lemma exists_holds_ne (h : Contested fields f) (hmem : f ∈ fields) (hne : f.name ≠ [])
    (hf : ∀ f ∈ fields, ∀ c ∈ f.name, isMark c = false) :
    ∃ fields₁ fields₂, fields₁.Perm fields ∧ fields₂.Perm fields ∧
      holds ('!' :: f.name) fields₁ = true ∧ holds ('!' :: f.name) fields₂ = false := by
  obtain ⟨g, hg, hname, hgf⟩ := h.2.1
  have hlen : g.name.length = f.name.length := by
    have := List.length_pos_iff.2 hne
    rw [hname, List.length_cons, List.length_dropLast]
    omega
  have hgx : g.name <:+: '!' :: f.name := by
    rw [hname]
    exact (List.cons_prefix_cons.2 ⟨rfl, List.dropLast_prefix _⟩).isInfix
  have hfirst (i : Field) (hi : i ∈ fields) : (i :: fields.erase i).Perm fields :=
    (List.perm_cons_erase hi).symm
  have hmarks (i : Field) (hi : i ∈ fields) :
      ∀ j ∈ i :: fields.erase i, ∀ c ∈ j.name, isMark c = false := fun j hj =>
    hf j ((hfirst i hi).mem_iff.1 hj)
  refine ⟨f :: fields.erase f, g :: fields.erase g, hfirst f hmem, hfirst g hg, ?_, ?_⟩
  · have htaker : taker? (f :: fields.erase f) ('!' :: f.name) = some f :=
      taker?_cons hne (List.suffix_cons '!' f.name).isInfix fun i hi =>
        h.length_le (List.mem_of_mem_erase hi)
    have hsettles : Settles f ('!' :: f.name) true := .inr ⟨rfl, by rw [h.1]; rfl⟩
    exact (holds_atom (hmarks f hmem) (hf f hmem) true).trans
      ((termHolds_substitute_iff htaker).2 hsettles)
  · have htaker : taker? (g :: fields.erase g) ('!' :: f.name) = some g :=
      taker?_cons (by simp [hname]) hgx fun i hi hi' =>
        hlen ▸ h.length_le (List.mem_of_mem_erase hi) hi'
    have hnot : termHolds (substitute ('!' :: f.name) (g :: fields.erase g)) = false := by
      rw [← Bool.not_eq_true, termHolds_substitute_iff htaker]
      rintro (⟨he, -⟩ | ⟨he, -⟩)
      · have := congrArg List.length he
        rw [List.length_cons] at this
        omega
      · exact hgf (List.cons.inj he).2.symm
    exact (holds_atom (hmarks g hg) (hf f hmem) true).trans hnot

end Contested

end CitationNotes.Condition
