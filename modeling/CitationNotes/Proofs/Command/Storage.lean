import Mathlib.Tactic.Lemma
import CitationNotes.Command.Files

/-!
What a file that is written changes.

A file is written only where all places on the way to it are directories, and so no place becomes
one or stops being one. The place that is written to was no directory either, so no walk ever went
through it. Hence the file reads back as it was written, and every other path reads as before.
-/

namespace CitationNotes

section Except

variable {ε α β : Type} {x : Except ε α}

lemma bind_eq_ok_iff {f : α → Except ε β} {b : β} :
    x >>= f = .ok b ↔ ∃ a, x = .ok a ∧ f a = .ok b := by
  cases x with
  | error e => exact ⟨nofun, nofun⟩
  | ok a => simp [Bind.bind, Except.bind]

lemma eq_ok_of_toOption {a : α} (h : x.toOption = some a) : x = .ok a := by
  cases x <;> cases h
  rfl

lemma toOption_bind (x : Except ε α) (f : α → Except ε β) :
    (x.bind f).toOption = x.toOption.bind fun a => (f a).toOption := by
  cases x <;> rfl

end Except

namespace Files

variable {fs fs' : Files} {path content : Text} {p q : Place}

/-! ### Walks -/

lemma walkable_eq_ok {ns : List Text} (h : walkable path = .ok ns) : names path = ns := by
  rw [walkable] at h
  split at h
  · cases h
  split at h
  · cases h
  · exact Except.ok.inj h

lemma step_eq_ok {name : Text} (h : fs.step p name = .ok q) :
    fs.content? p = none ∧ fs.hasDirectory p = true ∧ enter p name = q := by
  rw [step] at h
  split at h
  · cases h
  next hfile =>
  split at h
  · cases h
  next hdir =>
  split at h
  · cases h
  · exact ⟨by simpa using hfile, by simpa using hdir, Except.ok.inj h⟩

lemma walk_eq_ok {names : List Text} (h : fs.walk p names = .ok q) : names.foldl enter p = q := by
  induction names generalizing p with
  | nil => exact Except.ok.inj h
  | cons name names ih =>
    obtain ⟨p', hs, hw⟩ := bind_eq_ok_iff.1 h
    rw [List.foldl_cons, (step_eq_ok hs).2.2]
    exact ih hw

/-- All places on the way to `p` are directories. -/
def Rooted (fs : Files) (p : Place) : Prop := ∀ q, q <+: p → q ≠ p → fs.hasDirectory q = true

lemma rooted_nil : fs.Rooted [] := fun _ hq hne => absurd (List.prefix_nil.1 hq) hne

lemma Rooted.concat (h : fs.Rooted p) (hp : fs.hasDirectory p = true) (name : Text) :
    fs.Rooted (p ++ [name]) := by
  intro q hq hne
  have hqp : q <+: p := (List.prefix_concat_iff.1 hq).resolve_left hne
  by_cases heq : q = p
  · rw [heq, hp]
  · exact h q hqp heq

lemma Rooted.dropLast (h : fs.Rooted p) : fs.Rooted p.dropLast := by
  intro q hq hne
  refine h q (hq.trans (List.dropLast_prefix p)) ?_
  rintro rfl
  exact hne (hq.eq_of_length_le (by simp))

lemma Rooted.enter (h : fs.Rooted p) (hp : fs.hasDirectory p = true) (name : Text) :
    fs.Rooted (enter p name) := by
  have hstart (name : Text) : fs.Rooted [name] := rooted_nil.concat (by simp [hasDirectory]) name
  rw [Files.enter]
  split
  · exact hstart name
  split
  · exact h
  split
  · split
    · exact hstart dots
    · split
      · exact h.concat hp dots
      · split
        · exact h
        · exact h.dropLast
  · exact h.concat hp name

lemma Rooted.walk (h : fs.Rooted p) {names : List Text} (hw : fs.walk p names = .ok q) :
    fs.Rooted q := by
  induction names generalizing p with
  | nil => exact Except.ok.inj hw ▸ h
  | cons name names ih =>
    obtain ⟨p', hs, hw⟩ := bind_eq_ok_iff.1 hw
    obtain ⟨-, hdir, rfl⟩ := step_eq_ok hs
    exact ih (h.enter hdir name) hw

/-! ### The places after a write -/

/-- What is read lies at the end of the walk. -/
lemma toOption_read (fs : Files) (path : Text) :
    (fs.read path).toOption = (walkable path).toOption.bind fun ns =>
      (fs.walk [] ns).toOption.bind fun p =>
        if fs.hasDirectory p || endsInSlash path then none else fs.content? p := by
  change ((walkable path).bind fun ns => (fs.walk [] ns).bind _).toOption = _
  rw [toOption_bind]
  refine Option.bind_congr fun ns _ => ?_
  rw [toOption_bind]
  refine Option.bind_congr fun p _ => ?_
  cases fs.hasDirectory p <;> cases endsInSlash path <;> cases fs.content? p <;> rfl

/-- What it takes to write a file. -/
lemma write_eq_ok (h : fs.write path content = .ok fs') :
    walkable path = .ok (names path) ∧ endsInSlash path = false ∧
      fs.walk [] (names path) = .ok (place path) ∧ fs.hasDirectory (place path) = false ∧
      fs' = { fs with contents := set path content fs.contents } := by
  have hwrite : fs.write path content = (walkable path).bind fun ns =>
      if endsInSlash path then
        (fs.walk [] (ns.dropLast ++ [dot])).bind fun _ => .error .isDirectory
      else
        (fs.walk [] ns).bind fun p =>
          if fs.hasDirectory p then .error .isDirectory
          else .ok { fs with contents := set path content fs.contents } := rfl
  rw [hwrite] at h
  obtain ⟨ns, hns, h⟩ := bind_eq_ok_iff.1 h
  obtain rfl := walkable_eq_ok hns
  split at h
  · obtain ⟨-, -, h⟩ := bind_eq_ok_iff.1 h
    cases h
  next hslash =>
  obtain ⟨p, hp, h⟩ := bind_eq_ok_iff.1 h
  obtain rfl : place path = p := walk_eq_ok hp
  split at h
  · cases h
  next hdir =>
  exact ⟨hns, by simpa using hslash, hp, by simpa using hdir, (Except.ok.inj h).symm⟩

lemma find?_set (path content : Text) (contents : List (Text × Text)) (p : Place) :
    ((set path content contents).find? fun f => place f.1 == p).map Prod.snd =
      if p = place path then some content
      else (contents.find? fun f => place f.1 == p).map Prod.snd := by
  by_cases hp : p = place path
  · rw [if_pos hp, hp]
    induction contents with
    | nil => simp [set]
    | cons f contents ih =>
      rw [set]
      by_cases hf : place f.1 = place path
      · rw [if_pos hf, List.find?_cons_of_pos (by simpa using hf)]
        rfl
      · rw [if_neg hf, List.find?_cons_of_neg (by simpa using hf), ih]
  · rw [if_neg hp]
    induction contents with
    | nil => simp [set, Ne.symm hp]
    | cons f contents ih =>
      rw [set]
      by_cases hf : place f.1 = place path
      · have hfp : ¬ place f.1 = p := fun h => hp (h ▸ hf)
        rw [if_pos hf, List.find?_cons_of_neg (by simpa using hfp),
          List.find?_cons_of_neg (by simpa using hfp)]
      · rw [if_neg hf, List.find?_cons, List.find?_cons]
        cases place f.1 == p
        · exact ih
        · rfl

/-- The written path is the only one that may be new. -/
lemma any_set (path content : Text) (contents : List (Text × Text)) (b : Place → Bool) :
    (set path content contents).any (fun f => b (place f.1)) =
      (contents.any (fun f => b (place f.1)) || b (place path)) := by
  induction contents with
  | nil => simp [set]
  | cons f contents ih =>
    rw [set]
    split
    · next hf =>
      rw [List.any_cons, List.any_cons, hf, Bool.or_assoc, Bool.or_comm (List.any ..),
        ← Bool.or_assoc, Bool.or_self]
    · rw [List.any_cons, List.any_cons, ih, Bool.or_assoc]

section Write

variable (h : fs.write path content = .ok fs')

include h

lemma content?_write (p : Place) :
    fs'.content? p = if p = place path then some content else fs.content? p := by
  obtain ⟨-, -, -, -, rfl⟩ := write_eq_ok h
  exact find?_set path content fs.contents p

lemma hasDirectory_write (p : Place) : fs'.hasDirectory p = fs.hasDirectory p := by
  obtain ⟨-, -, hwalk, -, rfl⟩ := write_eq_ok h
  have hrooted : fs.Rooted (place path) := rooted_nil.walk hwalk
  have hany := any_set path content fs.contents fun q => p.isPrefixOf q && q != p
  rw [hasDirectory, hasDirectory, hany, ← Bool.or_assoc]
  -- the file makes `p` a directory only if `p` is on the way to it, where there is one already
  by_cases hp : p.isPrefixOf (place path) && place path != p
  · rw [Bool.and_eq_true, List.isPrefixOf_iff_prefix, bne_iff_ne] at hp
    have hdir := hrooted p hp.1 hp.2.symm
    rw [hasDirectory] at hdir
    rw [hdir, Bool.true_or]
  · rw [Bool.not_eq_true] at hp
    rw [hp, Bool.or_false]

/-- No step is lost or won, since there was none from the place that is written to. -/
lemma step_write (p : Place) (name : Text) :
    (fs'.step p name).toOption = (fs.step p name).toOption := by
  rw [step, step, content?_write h, hasDirectory_write h]
  by_cases hp : p = place path
  · obtain ⟨-, -, -, hdir, -⟩ := write_eq_ok h
    rw [if_pos hp, hp, hdir]
    cases fs.content? (place path) <;> rfl
  · rw [if_neg hp]

lemma walk_write (p : Place) (names : List Text) :
    (fs'.walk p names).toOption = (fs.walk p names).toOption := by
  induction names generalizing p with
  | nil => rfl
  | cons name names ih =>
    rw [walk, walk, toOption_bind, toOption_bind, step_write h]
    exact Option.bind_congr fun q _ => ih q

/-- **What is written is read.** -/
lemma read_write : fs'.read path = .ok content := by
  obtain ⟨hns, hslash, hwalk, hdir, -⟩ := write_eq_ok h
  refine eq_ok_of_toOption ?_
  rw [toOption_read, hns, Except.toOption, Option.bind_some, walk_write h, hwalk, Except.toOption,
    Option.bind_some, hasDirectory_write h, hdir, hslash, content?_write h, if_pos rfl]
  rfl

/-- **All else reads as before.** -/
lemma read_write_of_ne {other : Text} (hne : place other ≠ place path) :
    (fs'.read other).toOption = (fs.read other).toOption := by
  rw [toOption_read, toOption_read]
  refine Option.bind_congr fun ns hns => ?_
  obtain rfl := walkable_eq_ok (eq_ok_of_toOption hns)
  rw [walk_write h]
  refine Option.bind_congr fun p hp => ?_
  obtain rfl : place other = p := walk_eq_ok (eq_ok_of_toOption hp)
  rw [hasDirectory_write h, content?_write h, if_neg hne]

end Write

/-- What writing `content` to `path` has made of the files: it is read there, and nothing else has
changed. -/
structure Written (fs : Files) (path content : Text) (fs' : Files) : Prop where
  target : fs'.read path = .ok content
  contents : ∀ p, p ≠ place path → fs'.content? p = fs.content? p
  others : ∀ other, place other ≠ place path → (fs'.read other).toOption = (fs.read other).toOption
  directories : ∀ p, fs'.hasDirectory p = fs.hasDirectory p

lemma written (h : fs.write path content = .ok fs') : Written fs path content fs' where
  target := read_write h
  contents p hp := by rw [content?_write h, if_neg hp]
  others _ hne := read_write_of_ne h hne
  directories := hasDirectory_write h

end Files

end CitationNotes
