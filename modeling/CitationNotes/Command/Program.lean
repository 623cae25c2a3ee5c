import CitationNotes.Command.Files
import CitationNotes.Document.Basic
import CitationNotes.Library.Load

/-!
What the commands do.

The program rests on tools that others have made: a disk, and what reads the arguments, decodes a
library, reads and renders a document, and puts an error into words. Nothing is taken for granted
about them, and where one can fail it may do so for any reason. A run is a function from the disk
and the arguments to what is printed, the exit code and the disk as it is then. There is one place
where it writes, behind all else that can go wrong.
-/

namespace CitationNotes.Command

/-- What the arguments ask for. Fields are names with texts. -/
inductive Request where
  | check (library : Text)
  | cite (library source : Text) (fields : List (Text × Text)) (footnoteOnly : Bool)
  | footnote (library source document : Text) (position : Nat) (fields : List (Text × Text))
    (output : Option Text)
deriving DecidableEq, Repr

/-- The end of a run whose arguments are no request, or a call for help. -/
structure Halt where
  code : Nat
  stdout : Text
  stderr : Text
deriving DecidableEq, Repr

/-- An error and what it comes from, the nearest first. -/
structure Failure where
  message : Text
  causes : List Text
deriving DecidableEq, Repr

/-- The error that this one is the cause of. -/
def Failure.within (message : Text) (f : Failure) : Failure := ⟨message, f.message :: f.causes⟩

/-- How a run can end early. -/
inductive Stop where
  | failure (f : Failure)
  | crash (message : Text)
deriving DecidableEq, Repr

/-- What is given, with an error put in other words. A crash is beyond words. -/
def rephrase {α : Type} (words : Failure → Failure) : Except Stop α → Except Stop α
  | .error (.failure f) => .error (.failure (words f))
  | x => x

/-! ### Tools -/

/-- A form that documents are kept in, read from text and rendered as content `C` of a file. -/
structure Markup (C : Type) where
  read : Text → Except Stop Document
  write : Document → Except Stop C

/-- A disk with states `S`, files `F` and contents `C`. A path leads to a file whether there is one
or not. What a write leaves behind is not said, not even if it fails. -/
structure Disk (S F C : Type) where
  content? : S → F → Option C
  file : S → Text → F
  read : S → Text → Except Stop Text
  write : S → Text → C → S × Except Stop Unit

/-- All that a run rests on. -/
structure Tools (S F C : Type) where
  disk : Disk S F C
  parse : List Text → Except Halt Request
  decode : Text → Except Stop LibraryDraft
  ftml : Markup C
  markdown : Markup C
  report : Failure → Text

structure Outcome (S : Type) where
  code : Nat
  stdout : Text
  stderr : Text
  files : S
deriving DecidableEq, Repr

def line (t : Text) : Text := t ++ ['\n']

def lines (ts : List Text) : Text := ts.flatMap line

def quote (t : Text) : Text := '\x60' :: t ++ ['\x60']

/-! ### Libraries -/

def reportText (r : Report) : Text :=
  lines (r.skipped.map fun s => "skipped: ".toList ++ s.message) ++
    lines (r.warnings.map fun w => "warning: ".toList ++ w.1 ++ ": ".toList ++ w.2.message)

def listing (l : Library) : Text :=
  lines <| l.categories.flatMap fun c =>
    c.title :: c.sources.map fun s =>
      "  ".toList ++ s.title ++ " (".toList ++ Text.decimal s.inputs.length ++ " inputs)".toList

/-- The source with its form filled in, one field after the other. -/
def fill (title : Text) : List (Text × Text) → Source → Except Stop Source
  | [], s => .ok s
  | (name, text) :: fields, s =>
    match s.setField? name text with
    | some s => fill title fields s
    | none =>
      .error <| .failure
        ⟨"source type ".toList ++ quote title ++ " has no input called ".toList ++ quote name, []⟩

def filledSource (l : Library) (path title : Text) (fields : List (Text × Text)) :
    Except Stop Source :=
  match l.source? title with
  | some s => fill title fields s
  | none =>
    .error <| .failure
      ⟨"no source type called ".toList ++ quote title ++ " in ".toList ++ path, []⟩

/-! ### Documents -/

inductive Format where
  | ftml
  | markdown
deriving DecidableEq, Repr

def Format.name : Format → Text
  | .ftml => "FTML".toList
  | .markdown => "Markdown".toList

def markdownSuffixes : List Text :=
  ["md".toList, "markdown".toList, "mkd".toList, "mdown".toList, "mdtxt".toList]

def Format.ofPath (path : Text) : Format :=
  match Files.suffix? path with
  | some s => if markdownSuffixes.contains (s.map Char.toLower) then .markdown else .ftml
  | none => .ftml

/-- The document with the footnote of a source at a position, and its content at the end. -/
def placeFootnote (s : Source) (path : Text) (position : Nat) (d : Document) :
    Except Stop Document :=
  match d.addFootnote position s.footnoteRuns with
  | .ok (n, d) => .ok (Document.append d [Document.footnoteBody n])
  | .error (.outOfRange e) =>
    .error <| .failure
      ⟨"cannot place a footnote in ".toList ++ path ++ " (".toList ++
        Text.decimal d.paragraphs.textLength ++ " chars)".toList, [e.message]⟩
  | .error e => .error (.crash e.message)

/-! ### Runs -/

namespace Tools

variable {S F C : Type} (t : Tools S F C)

def markup : Format → Markup C
  | .ftml => t.ftml
  | .markdown => t.markdown

def readFile (s : S) (path : Text) : Except Stop Text :=
  rephrase (.within ("failed to read ".toList ++ path)) (t.disk.read s path)

def loadLibrary (s : S) (path : Text) : Except Stop (Library × Report) :=
  rephrase (.within ("failed to load ".toList ++ path)) do
    let text ← t.readFile s path
    let d ← rephrase (fun f => f.within ("library is not valid TOML: ".toList ++ f.message))
      (t.decode text)
    return (d.load.1, .ofRemarks d.load.2)

def loadDocument (s : S) (path : Text) : Except Stop Document := do
  let text ← t.readFile s path
  rephrase (fun f => ⟨"failed to parse ".toList ++ path ++ ": ".toList ++ f.message, []⟩)
    ((t.markup (.ofPath path)).read text)

/-- A document rendered with the footnote of a source in it. -/
def compose (s : S) (source : Source) (path : Text) (position : Nat) : Except Stop C := do
  let d ← t.loadDocument s path
  let d ← placeFootnote source path position d
  let format := Format.ofPath path
  rephrase (.within ("failed to render ".toList ++ format.name)) ((t.markup format).write d)

/-- The end of a run that has stopped early. -/
def stopped (s : S) (stdout stderr : Text) : Stop → Outcome S
  | .failure f => ⟨1, stdout, stderr ++ line ("Error: ".toList ++ t.report f), s⟩
  | .crash message => ⟨101, stdout, stderr ++ line message, s⟩

/-- A file written, at the end of a run. -/
def save (s : S) (path : Text) (content : C) (stderr : Text) : Outcome S :=
  let written := t.disk.write s path content
  match rephrase (.within ("failed to write ".toList ++ path)) written.2 with
  | .ok () => ⟨0, [], stderr, written.1⟩
  | .error e => t.stopped written.1 [] stderr e

def runCheck (s : S) (path : Text) : Outcome S :=
  match t.loadLibrary s path with
  | .error e => t.stopped s [] [] e
  | .ok (l, r) =>
    if r.skipped.isEmpty then ⟨0, listing l, reportText r, s⟩
    else
      t.stopped s (listing l) (reportText r) <|
        .failure ⟨Text.decimal r.skipped.length ++ " entries skipped".toList, []⟩

/-- A run that needs a source with its form filled in. -/
def withSource (s : S) (path title : Text) (fields : List (Text × Text))
    (use : Source → Text → Outcome S) : Outcome S :=
  match t.loadLibrary s path with
  | .error e => t.stopped s [] [] e
  | .ok (l, r) =>
    match filledSource l path title fields with
    | .error e => t.stopped s [] (reportText r) e
    | .ok source => use source (reportText r)

def runCite (s : S) (path title : Text) (fields : List (Text × Text)) (footnoteOnly : Bool) :
    Outcome S :=
  t.withSource s path title fields fun source report =>
    ⟨0, (if footnoteOnly then [] else line source.bibliographyPreview) ++
      line source.footnotePreview, report, s⟩

def runFootnote (s : S) (path title : Text) (fields : List (Text × Text)) (document : Text)
    (position : Nat) (output : Text) : Outcome S :=
  t.withSource s path title fields fun source report =>
    match t.compose s source document position with
    | .error e => t.stopped s [] report e
    | .ok content => t.save s output content report

def runRequest (s : S) : Request → Outcome S
  | .check library => t.runCheck s library
  | .cite library source fields footnoteOnly => t.runCite s library source fields footnoteOnly
  | .footnote library source document position fields output =>
    t.runFootnote s library source fields document position (output.getD document)

def execute (s : S) (args : List Text) : Outcome S :=
  match t.parse args with
  | .ok r => t.runRequest s r
  | .error h => ⟨h.code, h.stdout, h.stderr, s⟩

end Tools

end CitationNotes.Command
