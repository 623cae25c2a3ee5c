import CitationNotes.Command.Run
import CitationNotes.Proofs.Command.Storage

/-!
What a run does to the files.

Of all requests only one for a footnote writes, and it writes once, when nothing can go wrong any
more but the writing itself. So a run that does not succeed leaves the files as they were if the
disk does so with a write that fails, and one that succeeds changes at most the file at its target.
That is so whatever the program's tools are, and for which reasons they fail.
-/

namespace CitationNotes.Command

variable {S F C : Type}

/-! ### What is relied on -/

namespace Disk

variable (d : Disk S F C)

/-- No file has changed. -/
def Kept (s s' : S) : Prop := ∀ f, d.content? s' f = d.content? s f

/-- The file at a path has got a content, and no other file has changed. -/
structure Written (s : S) (path : Text) (content : C) (s' : S) : Prop where
  target : d.content? s' (d.file s path) = some content
  others : ∀ f, f ≠ d.file s path → d.content? s' f = d.content? s f

/-- A file is written as a whole or not at all. -/
structure Sound : Prop where
  written : ∀ {s path content}, (d.write s path content).2 = .ok () →
    d.Written s path content (d.write s path content).1
  kept : ∀ {s path content e}, (d.write s path content).2 = .error e →
    d.Kept s (d.write s path content).1

end Disk

/-- The path that a request writes to. -/
def Request.target? : Request → Option Text
  | .footnote _ _ document _ _ output => some (output.getD document)
  | _ => none

/-! ### Stages -/

/-- Other words make no error good. -/
lemma rephrase_eq_ok_iff {α : Type} {words : Failure → Failure} {x : Except Stop α} {a : α} :
    rephrase words x = .ok a ↔ x = .ok a := by
  rcases x with (f | message) | a <;> simp [rephrase]

namespace Tools

variable {t : Tools S F C} {s : S}

/-- A request for a footnote meets a library with its source, fields that the source has, and a
document with a place for the footnote; `content` is the document with the footnote in it. -/
inductive Composes (t : Tools S F C) (s : S) : Request → C → Prop where
  | footnote {library title document : Text} {position : Nat} {fields : List (Text × Text)}
    {output : Option Text} {toml text : Text} {content : C} {draft : LibraryDraft}
    {source : Source} {d d' : Document}
    (hread : t.disk.read s library = .ok toml)
    (hdecode : t.decode toml = .ok draft)
    (hsource : filledSource draft.load.1 library title fields = .ok source)
    (hopen : t.disk.read s document = .ok text)
    (hparse : (t.markup (.ofPath document)).read text = .ok d)
    (hplace : placeFootnote source document position d = .ok d')
    (hrender : (t.markup (.ofPath document)).write d' = .ok content) :
    Composes t s (.footnote library title document position fields output) content

lemma readFile_eq_ok_iff {path text : Text} :
    t.readFile s path = .ok text ↔ t.disk.read s path = .ok text := rephrase_eq_ok_iff

lemma loadLibrary_eq_ok_iff {path : Text} {l : Library} {report : Report} :
    t.loadLibrary s path = .ok (l, report) ↔ ∃ toml draft, t.disk.read s path = .ok toml ∧
      t.decode toml = .ok draft ∧ draft.load.1 = l ∧ .ofRemarks draft.load.2 = report := by
  rw [loadLibrary, rephrase_eq_ok_iff, bind_eq_ok_iff]
  simp only [bind_eq_ok_iff, rephrase_eq_ok_iff, readFile_eq_ok_iff, Pure.pure, Except.pure,
    Except.ok.injEq, Prod.mk.injEq]
  constructor
  · rintro ⟨toml, hread, draft, hdecode, hl, hreport⟩
    exact ⟨toml, draft, hread, hdecode, hl, hreport⟩
  · rintro ⟨toml, draft, hread, hdecode, hl, hreport⟩
    exact ⟨toml, hread, draft, hdecode, hl, hreport⟩

lemma compose_eq_ok_iff {source : Source} {path : Text} {position : Nat} {content : C} :
    t.compose s source path position = .ok content ↔ ∃ text d d',
      t.disk.read s path = .ok text ∧ (t.markup (.ofPath path)).read text = .ok d ∧
        placeFootnote source path position d = .ok d' ∧
        (t.markup (.ofPath path)).write d' = .ok content := by
  rw [compose, bind_eq_ok_iff]
  simp only [loadDocument, bind_eq_ok_iff, rephrase_eq_ok_iff, readFile_eq_ok_iff]
  constructor
  · rintro ⟨d, ⟨text, hopen, hparse⟩, d', hplace, hrender⟩
    exact ⟨text, d, d', hopen, hparse, hplace, hrender⟩
  · rintro ⟨text, d, d', hopen, hparse, hplace, hrender⟩
    exact ⟨d, ⟨text, hopen, hparse⟩, d', hplace, hrender⟩

/-! ### Single commands -/

/-- The run has not succeeded, and has left the disk alone. -/
structure Idle (o : Outcome S) (s : S) : Prop where
  code : o.code ≠ 0
  files : o.files = s

lemma idle_stopped (stdout stderr : Text) (e : Stop) : Idle (t.stopped s stdout stderr e) s := by
  cases e with
  | failure f => exact ⟨Nat.one_ne_zero, rfl⟩
  | crash message => exact ⟨Nat.succ_ne_zero 100, rfl⟩

lemma files_runCheck (library : Text) : (t.runCheck s library).files = s := by
  rw [runCheck]
  split
  · exact (idle_stopped ..).files
  · split
    · rfl
    · exact (idle_stopped ..).files

/-- A run that needs a source stops for lack of it, or goes on with it. -/
lemma withSource_cases (library title : Text) (fields : List (Text × Text))
    (use : Source → Text → Outcome S) :
    Idle (t.withSource s library title fields use) s ∨
    ∃ toml draft source report, t.disk.read s library = .ok toml ∧ t.decode toml = .ok draft ∧
      filledSource draft.load.1 library title fields = .ok source ∧
      t.withSource s library title fields use = use source report := by
  rw [withSource]
  rcases hl : t.loadLibrary s library with e | ⟨l, report⟩
  · exact .inl (idle_stopped ..)
  obtain ⟨toml, draft, hread, hdecode, rfl, -⟩ := loadLibrary_eq_ok_iff.1 hl
  dsimp only
  rcases hs : filledSource draft.load.1 library title fields with e | source
  · exact .inl (idle_stopped ..)
  · exact .inr ⟨toml, draft, source, _, hread, hdecode, hs, rfl⟩

lemma files_runCite (library title : Text) (fields : List (Text × Text)) (footnoteOnly : Bool) :
    (t.runCite s library title fields footnoteOnly).files = s := by
  obtain hidle | ⟨-, -, source, report, -, -, -, huse⟩ := withSource_cases library title fields _
  · exact hidle.files
  · rw [runCite, huse]

/-- After a write the run is over, and it has succeeded if the write has. -/
lemma save_spec (s : S) (path : Text) (content : C) (stderr : Text) :
    (t.save s path content stderr).files = (t.disk.write s path content).1 ∧
      ((t.save s path content stderr).code = 0 ↔ (t.disk.write s path content).2 = .ok ()) := by
  rw [save]
  rcases hw : rephrase (.within ("failed to write ".toList ++ path)) (t.disk.write s path content).2
    with e | ⟨⟩
  · have hidle := t.idle_stopped (s := (t.disk.write s path content).1) [] stderr e
    refine ⟨hidle.files, iff_of_false hidle.code fun hok => ?_⟩
    rw [rephrase_eq_ok_iff.2 hok] at hw
    cases hw
  · exact ⟨rfl, iff_of_true rfl (rephrase_eq_ok_iff.1 hw)⟩

/-! ### Whole runs -/

section Request

variable {r : Request} {path : Text} {content : C}

/-- Once all is composed, the run comes down to the write. -/
lemma runRequest_of_composes (h : Composes t s r content) (hpath : r.target? = some path) :
    (t.runRequest s r).files = (t.disk.write s path content).1 ∧
      ((t.runRequest s r).code = 0 ↔ (t.disk.write s path content).2 = .ok ()) := by
  obtain ⟨hread, hdecode, hsource, hopen, hparse, hplace, hrender⟩ := h
  obtain rfl := Option.some.inj hpath
  have hload := loadLibrary_eq_ok_iff.2 ⟨_, _, hread, hdecode, rfl, rfl⟩
  have hcompose := compose_eq_ok_iff.2 ⟨_, _, _, hopen, hparse, hplace, hrender⟩
  simp only [runRequest, runFootnote, withSource, hload, hsource, hcompose]
  exact save_spec ..

/-- As long as not all is composed, the disk is left alone. -/
lemma runRequest_cases (t : Tools S F C) (s : S) (r : Request) :
    ((t.runRequest s r).files = s ∧ (r.target? = none ∨ (t.runRequest s r).code ≠ 0)) ∨
      ∃ content, Composes t s r content := by
  cases r with
  | check library => exact .inl ⟨files_runCheck library, .inl rfl⟩
  | cite library source fields footnoteOnly =>
    exact .inl ⟨files_runCite library source fields footnoteOnly, .inl rfl⟩
  | footnote library title document position fields output =>
    obtain hidle | ⟨toml, draft, source, report, hread, hdecode, hsource, huse⟩ :=
      withSource_cases library title fields _
    · exact .inl ⟨hidle.files, .inr hidle.code⟩
    · rcases hc : t.compose s source document position with e | content
      · left
        rw [runRequest, runFootnote, huse, hc]
        have hidle := t.idle_stopped (s := s) [] report e
        exact ⟨hidle.files, .inr hidle.code⟩
      · obtain ⟨text, d, d', hopen, hparse, hplace, hrender⟩ := compose_eq_ok_iff.1 hc
        exact .inr ⟨content, .footnote hread hdecode hsource hopen hparse hplace hrender⟩

lemma exists_target?_of_composes (h : Composes t s r content) : ∃ path, r.target? = some path := by
  cases h
  exact ⟨_, rfl⟩

lemma files_of_target?_eq_none (hnone : r.target? = none) : (t.runRequest s r).files = s := by
  obtain ⟨hfiles, -⟩ | ⟨content, h⟩ := runRequest_cases t s r
  · exact hfiles
  · obtain ⟨path, hpath⟩ := exists_target?_of_composes h
    rw [hnone] at hpath
    cases hpath

lemma code_eq_zero_iff (hpath : r.target? = some path) : (t.runRequest s r).code = 0 ↔
    ∃ content, Composes t s r content ∧ (t.disk.write s path content).2 = .ok () := by
  constructor
  · intro hcode
    obtain ⟨-, hnone | hne⟩ | ⟨content, h⟩ := runRequest_cases t s r
    · rw [hpath] at hnone
      cases hnone
    · exact absurd hcode hne
    · exact ⟨content, h, (runRequest_of_composes h hpath).2.1 hcode⟩
  · rintro ⟨content, h, hw⟩
    exact (runRequest_of_composes h hpath).2.2 hw

/-- What is there after success is there after the write. -/
lemma exists_files_of_code (hpath : r.target? = some path) (hcode : (t.runRequest s r).code = 0) :
    ∃ content, Composes t s r content ∧ (t.disk.write s path content).2 = .ok () ∧
      (t.runRequest s r).files = (t.disk.write s path content).1 := by
  obtain ⟨content, h, hw⟩ := (code_eq_zero_iff hpath).1 hcode
  exact ⟨content, h, hw, (runRequest_of_composes h hpath).1⟩

lemma kept_of_code_ne_zero (hdisk : t.disk.Sound) (hcode : (t.runRequest s r).code ≠ 0) :
    t.disk.Kept s (t.runRequest s r).files := by
  obtain ⟨hfiles, -⟩ | ⟨content, h⟩ := runRequest_cases t s r
  · rw [hfiles]
    exact fun f => rfl
  · obtain ⟨path, hpath⟩ := exists_target?_of_composes h
    obtain ⟨hfiles, hzero⟩ := runRequest_of_composes h hpath
    rw [hfiles]
    rcases hw : (t.disk.write s path content).2 with e | ⟨⟩
    · exact hdisk.kept hw
    · exact absurd (hzero.2 hw) hcode

end Request

/-- **Files change only by success**, on any disk that writes files as a whole or not at all. A run
that ends with another code than zero keeps all of them. No run but one for a footnote touches the
disk, and that one does not before it has composed what it writes; it succeeds exactly if it can
write that to its target, and then this is the only file that has changed. -/
theorem execute_files (hdisk : t.disk.Sound) (s : S) (args : List Text) :
    ((t.execute s args).code ≠ 0 → t.disk.Kept s (t.execute s args).files) ∧
    (∀ h, t.parse args = .error h → (t.execute s args).files = s) ∧
    ∀ r, t.parse args = .ok r →
      (r.target? = none → (t.execute s args).files = s) ∧
      ((∀ content, ¬ Composes t s r content) → (t.execute s args).files = s) ∧
      ∀ path, r.target? = some path →
        ((t.execute s args).code = 0 ↔
          ∃ content, Composes t s r content ∧ (t.disk.write s path content).2 = .ok ()) ∧
        ((t.execute s args).code = 0 →
          ∃ content, Composes t s r content ∧ t.disk.Written s path content (t.execute s args).files) := by
  rw [execute]
  rcases t.parse args with h | r
  · exact ⟨fun _ f => rfl, fun _ _ => rfl, nofun⟩
  refine ⟨kept_of_code_ne_zero hdisk, nofun, ?_⟩
  rintro _ ⟨⟩
  refine ⟨files_of_target?_eq_none, fun hnone => ?_, fun path hpath => ⟨code_eq_zero_iff hpath, ?_⟩⟩
  · obtain ⟨hfiles, -⟩ | ⟨content, h⟩ := runRequest_cases t s r
    · exact hfiles
    · exact absurd h (hnone content)
  · intro hcode
    obtain ⟨content, h, hw, hfiles⟩ := exists_files_of_code hpath hcode
    refine ⟨content, h, ?_⟩
    rw [hfiles]
    exact hdisk.written hw

end Tools

/-! ### Files at hand -/

open Tools (Composes)

section Files

variable {fs : Files} {path text : Text}

lemma write_disk_of_eq_ok {fs' : Files} (h : fs.write path text = .ok fs') :
    disk.write fs path text = (fs', .ok ()) := by
  simp [disk, h]

lemma write_disk_of_eq_error {e : Files.Fault} (h : fs.write path text = .error e) :
    disk.write fs path text = (fs, .error (.ofMessage e.message)) := by
  simp [disk, h]

lemma write_eq_ok_of_disk (h : (disk.write fs path text).2 = .ok ()) :
    fs.write path text = .ok (disk.write fs path text).1 := by
  rcases hw : fs.write path text with e | fs'
  · rw [write_disk_of_eq_error hw] at h
    cases h
  · rw [write_disk_of_eq_ok hw]

lemma sound_disk : disk.Sound where
  written {fs path text} h := by
    have hcontent := Files.content?_write (write_eq_ok_of_disk h)
    exact ⟨(hcontent _).trans (if_pos rfl), fun p hp => (hcontent p).trans (if_neg hp)⟩
  kept {fs path text e} h := by
    rcases hw : fs.write path text with e' | fs'
    · rw [write_disk_of_eq_error hw]
      exact fun p => rfl
    · rw [write_disk_of_eq_ok hw] at h
      cases h

/-- A run on files that succeeds reads back what it has written, and all else as before. -/
theorem written_of_code {args : List Text} {r : Request} (hparse : parse args = .ok r)
    (hpath : r.target? = some path) (hcode : (execute fs args).code = 0) :
    ∃ text, Composes tools fs r text ∧ fs.Written path text (execute fs args).files := by
  have hrun : execute fs args = tools.runRequest fs r := by
    have hargs : tools.parse args = .ok r := by
      change (parse args).mapError _ = _
      rw [hparse]
      rfl
    rw [execute, Tools.execute, hargs]
  rw [hrun] at hcode ⊢
  obtain ⟨text, h, hw, hfiles⟩ := Tools.exists_files_of_code hpath hcode
  exact ⟨text, h, hfiles ▸ Files.written (write_eq_ok_of_disk hw)⟩

end Files

/-- A library with one source, and a document that ends in a list. -/
def desk : Files where
  contents :=
    [("lib".toList,
      "title='L'\n[[category]]\ntitle='C'\n[[category.source]]\ntitle='S'\n".toList ++
        "bibliography='-'\nfootnote='\x7b@a\x7d'\n".toList ++
        "[[category.source.input]]\ntitle='A'\nname='a'".toList),
      ("d".toList, "<p>ab</p><ul><li><p>c</p></li></ul>".toList)]
  directories := []

/-- A footnote at a position of the document, in a copy of it. -/
def copying (position output : String) : List Text :=
  ["footnote", "lib", "-sS", "-dd", "-fa=x", position, output].map String.toList

/-- Behind the first letter there is a place for the footnote, in the list there is none, and no
copy can be put under a file. -/
theorem execute_files_desk :
    tools.disk.Sound ∧
    (∃ r text, tools.parse (copying "-p1" "-oe") = .ok r ∧ r.target? = some ['e'] ∧
      Composes tools desk r text ∧
      tools.disk.Written desk ['e'] text (tools.execute desk (copying "-p1" "-oe")).files) ∧
    (tools.execute desk (copying "-p3" "-oe")).code = 101 ∧
    tools.disk.Kept desk (tools.execute desk (copying "-p3" "-oe")).files ∧
    (tools.execute desk (copying "-p1" "-olib/e")).code = 1 ∧
    tools.disk.Kept desk (tools.execute desk (copying "-p1" "-olib/e")).files := by
  have hcode : (tools.execute desk (copying "-p1" "-oe")).code = 0 := by decide +kernel
  have hcrash : (tools.execute desk (copying "-p3" "-oe")).code = 101 := by decide +kernel
  have hunder : (tools.execute desk (copying "-p1" "-olib/e")).code = 1 := by decide +kernel
  have hparse : tools.parse (copying "-p1" "-oe") = .ok
      (.footnote "lib".toList ['S'] ['d'] 1 [(['a'], ['x'])] (some ['e'])) := by
    rfl
  obtain ⟨-, -, hwritten⟩ :=
    (Tools.execute_files sound_disk desk (copying "-p1" "-oe")).2.2 _ hparse
  obtain ⟨text, hcomposes, hwritten⟩ := (hwritten ['e'] rfl).2 hcode
  have hkept : tools.disk.Kept desk (tools.execute desk (copying "-p3" "-oe")).files :=
    (Tools.execute_files sound_disk desk (copying "-p3" "-oe")).1 (by simp [hcrash])
  have hkept' : tools.disk.Kept desk (tools.execute desk (copying "-p1" "-olib/e")).files :=
    (Tools.execute_files sound_disk desk (copying "-p1" "-olib/e")).1 (by simp [hunder])
  exact ⟨sound_disk, ⟨_, text, hparse, rfl, hcomposes, hwritten⟩, hcrash, hkept, hunder, hkept'⟩

end CitationNotes.Command
