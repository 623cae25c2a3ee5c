import Mathlib.Tactic.Lemma
import CitationNotes.Proofs.Footnote.Reach

/-!
Footnotes added one after the other, some of them in vain.

A call succeeds or fails by its position alone, which means the same at any time of the run: calls
that succeed change neither the text nor the lengths of the paragraphs, and calls that fail change
nothing. The numbers that are given follow on the highest one that was there at first.
-/

namespace CitationNotes

/-- A call for a footnote. -/
structure Call where
  position : Nat
  content : Runs

/-- A call with the paragraphs that it finds, what it answers, and the paragraphs that it leaves. -/
structure Attempt where
  call : Call
  found : Paragraphs
  answer : Except FootnoteFault Footnote
  left : Paragraphs

/-- The number that was given, if the call succeeded. -/
def Attempt.id? (a : Attempt) : Option FootnoteId := a.answer.toOption.map Footnote.id

namespace Paragraphs

def attempt (ps : Paragraphs) (c : Call) : Attempt :=
  match ps.addFootnote c.position c.content with
  | .ok (n, ps') => ⟨c, ps, .ok n, ps'⟩
  | .error e => ⟨c, ps, .error e, ps⟩

/-- The calls in turn, each of them on what the one before has left. -/
def attempts : Paragraphs → List Call → List Attempt
  | _, [] => []
  | ps, c :: cs => ps.attempt c :: attempts (ps.attempt c).left cs

/-- What the last of the calls leaves. -/
def afterAll (ps : Paragraphs) (cs : List Call) : Paragraphs :=
  cs.foldl (fun ps c => (ps.attempt c).left) ps

/-- What no call changes. -/
structure Alike (ps qs : Paragraphs) : Prop where
  text : qs.text = ps.text
  textLength : qs.textLength = ps.textLength
  accepts : ∀ position, (∃ l, qs.locate position = .ok l) ↔ ∃ l, ps.locate position = .ok l

/-- What holds of each call in a run that starts with `ps`. -/
structure Sound (ps : Paragraphs) (a : Attempt) : Prop where
  made : a.found.attempt a.call = a
  alike : Alike ps a.found
  distinct : a.found.markers.Nodup
  succeeds : (∃ n, a.answer = .ok n) ↔ ps ≠ [] ∧ a.call.position ≤ ps.textLength
  fresh : ∀ n, a.answer = .ok n →
    0 < n.id ∧ (∀ id ∈ a.found.markers, id < n.id) ∧ a.left.markers.Perm (n.id :: a.found.markers)
  unchanged : ∀ e, a.answer = .error e →
    e = .outOfRange ⟨a.call.position, ps.textLength⟩ ∧ a.left = a.found

variable {ps qs rs : Paragraphs}

/-! ### One call -/

lemma Alike.refl (ps : Paragraphs) : Alike ps ps := ⟨rfl, rfl, fun _ => Iff.rfl⟩

lemma Alike.trans (h : Alike ps qs) (h' : Alike qs rs) : Alike ps rs where
  text := h'.text.trans h.text
  textLength := h'.textLength.trans h.textLength
  accepts position := (h'.accepts position).trans (h.accepts position)

lemma alike_mark (ps : Paragraphs) (l : Location) (id : FootnoteId) : Alike ps (ps.mark l id) := by
  have hlen : (ps.mark l id).textLength = ps.textLength := by
    rw [← length_text, text_mark, length_text]
  refine ⟨text_mark ps l id, hlen, fun position => ?_⟩
  rw [exists_locate_eq_ok_iff, exists_locate_eq_ok_iff, hlen, mark, ne_eq, List.modify_eq_nil_iff]

lemma markers_mark_perm {position : Nat} {l : Location} (h : ps.locate? position = some l)
    (id : FootnoteId) : (ps.mark l id).markers.Perm (id :: ps.markers) := by
  obtain ⟨qs, r, rs, rfl, hlen, -, -⟩ := exists_split_of_locate? h
  have hmark : mark (qs ++ r :: rs) l id =
      qs ++ r.splitInsert l.fragment l.offset (.footnote id) :: rs := by
    rw [mark, ← hlen, List.modify_eq_take_drop, List.take_left, List.drop_left,
      List.modifyHead_cons]
  have hnew := Runs.markers_splitInsert_perm r l.fragment l.offset id
  rw [hmark, markers, markers, List.flatMap_append, List.flatMap_append, List.flatMap_cons,
    List.flatMap_cons]
  exact ((hnew.append_right _).append_left _).trans List.perm_middle

/-- All that a call can do. -/
lemma attempt_cases (hids : (highestId ps.markers).toNat + 1 < UInt32.size) (c : Call) :
    (∃ l id, ps.locate? c.position = some l ∧ id.toNat = (highestId ps.markers).toNat + 1 ∧
      ps.attempt c = ⟨c, ps, .ok ⟨id, c.content, l⟩, ps.mark l id⟩) ∨
    (ps.locate? c.position = none ∧
      ps.attempt c = ⟨c, ps, .error (.outOfRange ⟨c.position, ps.textLength⟩), ps⟩) := by
  rcases hl : ps.locate? c.position with _ | l
  · refine .inr ⟨rfl, ?_⟩
    rw [attempt, addFootnote_eq_error hl hids]
  · obtain ⟨id, hid, hadd⟩ := addFootnote_eq_ok hl hids c.content
    refine .inl ⟨l, id, rfl, hid, ?_⟩
    rw [attempt, hadd]

/-- A call in paragraphs whose numbers are distinct. -/
lemma sound_attempt (hnodup : ps.markers.Nodup)
    (hids : (highestId ps.markers).toNat + 1 < UInt32.size) (c : Call) :
    Sound ps (ps.attempt c) := by
  obtain ⟨l, id, hl, hid, hc⟩ | ⟨hl, hc⟩ := attempt_cases hids c
  · have hplace : ps ≠ [] ∧ c.position ≤ ps.textLength :=
      exists_locate_eq_ok_iff.1 ⟨l, by rw [locate, hl]⟩
    rw [hc]
    refine ⟨hc, .refl ps, hnodup, ⟨fun _ => hplace, fun _ => ⟨_, rfl⟩⟩, fun n hn => ?_,
      fun e he => ?_⟩
    · obtain rfl := Except.ok.inj hn
      refine ⟨?_, fun _ => lt_of_toNat_eq_succ hid, markers_mark_perm hl id⟩
      exact UInt32.lt_iff_toNat_lt.2 (hid ▸ Nat.succ_pos _)
    · cases he
  · have hplace : ¬ (ps ≠ [] ∧ c.position ≤ ps.textLength) := by
      rw [← Nat.not_lt, ← not_or, ← locate?_eq_none_iff]
      exact fun h => h hl
    rw [hc]
    refine ⟨hc, .refl ps, hnodup, ⟨?_, fun h => absurd h hplace⟩, fun n hn => ?_, fun e he => ?_⟩
    · rintro ⟨n, hn⟩
      cases hn
    · cases hn
    · exact ⟨(Except.error.inj he).symm, rfl⟩

lemma highestId_mark {position : Nat} {l : Location} (h : ps.locate? position = some l)
    {id : FootnoteId} (hid : id.toNat = (highestId ps.markers).toNat + 1) :
    highestId (ps.mark l id).markers = id := by
  have hperm := markers_mark_perm h id
  refine highestId_eq (hperm.mem_iff.2 List.mem_cons_self) fun k hk => ?_
  rcases List.mem_cons.1 (hperm.mem_iff.1 hk) with rfl | hk
  · exact UInt32.le_rfl
  · exact UInt32.le_of_lt (lt_of_toNat_eq_succ hid hk)

/-- What a call leaves is good for the calls after it. -/
lemma left_attempt (hnodup : ps.markers.Nodup)
    (hids : (highestId ps.markers).toNat + 1 < UInt32.size) (c : Call) :
    Alike ps (ps.attempt c).left ∧ (ps.attempt c).left.markers.Nodup ∧
      (highestId (ps.attempt c).left.markers).toNat ≤ (highestId ps.markers).toNat + 1 := by
  obtain ⟨l, id, hl, hid, hc⟩ | ⟨hl, hc⟩ := attempt_cases hids c
  · rw [hc]
    refine ⟨alike_mark ps l id, ?_, ?_⟩
    · refine (markers_mark_perm hl id).nodup_iff.2 (List.nodup_cons.2 ⟨fun hmem => ?_, hnodup⟩)
      exact UInt32.lt_irrefl id (lt_of_toNat_eq_succ hid hmem)
    · rw [highestId_mark hl hid]
      exact Nat.le_of_eq hid
  · rw [hc]
    exact ⟨.refl ps, hnodup, Nat.le_succ _⟩

/-! ### All calls -/

lemma map_call_attempts (ps : Paragraphs) (cs : List Call) :
    (ps.attempts cs).map Attempt.call = cs := by
  induction cs generalizing ps with
  | nil => rfl
  | cons c cs ih =>
    have hcall : (ps.attempt c).call = c := by
      rw [attempt]
      split <;> rfl
    rw [attempts, List.map_cons, hcall, ih]

lemma Sound.of_alike {a : Attempt} (h : Alike ps qs) (ha : Sound qs a) : Sound ps a where
  made := ha.made
  alike := h.trans ha.alike
  distinct := ha.distinct
  succeeds := by
    rw [ha.succeeds, ← exists_locate_eq_ok_iff, h.accepts, exists_locate_eq_ok_iff]
  fresh := ha.fresh
  unchanged e he := by
    rw [← h.textLength]
    exact ha.unchanged e he

lemma sound_of_mem_attempts {cs : List Call} (hnodup : ps.markers.Nodup)
    (hids : (highestId ps.markers).toNat + cs.length < UInt32.size) :
    (∀ a ∈ ps.attempts cs, Sound ps a) ∧ Alike ps (ps.afterAll cs) ∧
      (ps.afterAll cs).markers.Nodup := by
  induction cs generalizing ps with
  | nil => exact ⟨List.forall_mem_nil _, .refl ps, hnodup⟩
  | cons c cs ih =>
    rw [List.length_cons] at hids
    obtain ⟨halike, hnodup', hle⟩ := left_attempt hnodup (by omega) c
    obtain ⟨hall, hafter, hlast⟩ := ih hnodup' (by omega)
    refine ⟨List.forall_mem_cons.2 ⟨sound_attempt hnodup (by omega) c, fun a ha => ?_⟩,
      halike.trans hafter, hlast⟩
    exact (hall a ha).of_alike halike

/-- The numbers given in a run follow on one another, and join those that were there. -/
lemma exists_given {cs : List Call}
    (hids : (highestId ps.markers).toNat + cs.length < UInt32.size) :
    ∃ given, (ps.attempts cs).filterMap Attempt.id? = given ∧
      given.map UInt32.toNat = List.range' ((highestId ps.markers).toNat + 1) given.length ∧
      (ps.afterAll cs).markers.Perm (given ++ ps.markers) := by
  induction cs generalizing ps with
  | nil => exact ⟨[], rfl, rfl, .refl _⟩
  | cons c cs ih =>
    rw [List.length_cons] at hids
    have hnext : (highestId ps.markers).toNat + 1 < UInt32.size := by omega
    obtain ⟨l, id, hl, hid, hc⟩ | ⟨hl, hc⟩ := attempt_cases hnext c
    · have hhigh := highestId_mark hl hid
      obtain ⟨given, hgiven, hrange, hperm⟩ := @ih (ps.mark l id) (by rw [hhigh]; omega)
      refine ⟨id :: given, ?_, ?_, ?_⟩
      · rw [attempts, hc, List.filterMap_cons, hgiven]
        rfl
      · rw [List.map_cons, hrange, hhigh, List.length_cons, List.range'_succ, hid]
      · rw [afterAll, List.foldl_cons, hc]
        exact (hperm.trans ((markers_mark_perm hl id).append_left _)).trans List.perm_middle
    · obtain ⟨given, hgiven, hrange, hperm⟩ := @ih ps (by omega)
      refine ⟨given, ?_, hrange, ?_⟩
      · rw [attempts, hc, List.filterMap_cons, hgiven]
        rfl
      · rw [afterAll, List.foldl_cons, hc]
        exact hperm

/-- **A run of calls** succeeds exactly at the positions of the text, and gives new numbers in
order; the text and its positions are the same at all times. -/
theorem attempts_sound {cs : List Call} (hnodup : ps.markers.Nodup)
    (hids : (highestId ps.markers).toNat + cs.length < UInt32.size) :
    (ps.attempts cs).map Attempt.call = cs ∧
    (∀ a ∈ ps.attempts cs, Sound ps a) ∧
    Alike ps (ps.afterAll cs) ∧
    (ps.afterAll cs).markers.Nodup ∧
    ∃ given, (ps.attempts cs).filterMap Attempt.id? = given ∧
      given.map UInt32.toNat = List.range' ((highestId ps.markers).toNat + 1) given.length ∧
      (ps.afterAll cs).markers.Perm (given ++ ps.markers) := by
  obtain ⟨hall, halike, hlast⟩ := sound_of_mem_attempts hnodup hids
  exact ⟨map_call_attempts ps cs, hall, halike, hlast, exists_given hids⟩

/-- The end of `crowded`, a position behind it, its start, and the empty paragraph. -/
def crowdedCalls : List Call := [⟨5, []⟩, ⟨6, [.plain ['x']]⟩, ⟨0, []⟩, ⟨3, []⟩]

theorem attempts_sound_crowded :
    crowded.markers.Nodup ∧
    (highestId crowded.markers).toNat + crowdedCalls.length < UInt32.size ∧
    ((crowded.attempts crowdedCalls).map Attempt.call = crowdedCalls ∧
      (∀ a ∈ crowded.attempts crowdedCalls, Sound crowded a) ∧
      Alike crowded (crowded.afterAll crowdedCalls) ∧
      (crowded.afterAll crowdedCalls).markers.Nodup ∧
      ∃ given, (crowded.attempts crowdedCalls).filterMap Attempt.id? = given ∧
        given.map UInt32.toNat =
          List.range' ((highestId crowded.markers).toNat + 1) given.length ∧
        (crowded.afterAll crowdedCalls).markers.Perm (given ++ crowded.markers)) ∧
    (crowded.attempts crowdedCalls).map Attempt.id? = [some 10, none, some 11, some 12] ∧
    (crowded.afterAll crowdedCalls).markers = [11, 7, 8, 12, 9, 10] :=
  have hnodup : crowded.markers.Nodup := by decide
  have hids : (highestId crowded.markers).toNat + crowdedCalls.length < UInt32.size := by decide
  ⟨hnodup, hids, attempts_sound hnodup hids, by decide, by decide⟩

end Paragraphs

end CitationNotes
