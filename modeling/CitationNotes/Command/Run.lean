import CitationNotes.Command.Arguments
import CitationNotes.Library.Decode
import CitationNotes.Markup.Ftml
import CitationNotes.Markup.Markdown.Read
import CitationNotes.Markup.Markdown.Write

/-!
A run on files that are at hand.

The tools are the reader of arguments, the decoder and the two markups of this library, and the
disk is a list of files with their texts. With these, rendering does not fail, and a file can be
written wherever there is a place for it.
-/

namespace CitationNotes.Command

namespace Failure

/-- A text whose lines behind the first start with `indent`. -/
def hang (indent t : Text) : Text :=
  t.flatMap fun c => if c = '\n' then '\n' :: indent else [c]

/-- Causes with their numbers from `n` on. What is below a number starts where it does. -/
def causeLines : Nat → List Text → Text
  | _, [] => []
  | n, c :: cs =>
    let number := Text.decimal n
    let margin := List.replicate (5 - number.length) ' '
    '\n' :: margin ++ number ++ ": ".toList ++ hang (List.replicate 7 ' ') c ++
      causeLines (n + 1) cs

/-- The message and its causes, which are numbered if there are several. -/
def report (f : Failure) : Text :=
  f.message ++
    match f.causes with
    | [] => []
    | [c] => "\n\nCaused by:\n    ".toList ++ hang "    ".toList c
    | cs => "\n\nCaused by:".toList ++ causeLines 0 cs

end Failure

/-- The failure that has no cause. -/
def Stop.ofMessage (message : Text) : Stop := .failure ⟨message, []⟩

def disk : Disk Files Place Text where
  content? := Files.content?
  file _ path := Files.place path
  read fs path := (fs.read path).mapError fun e => .ofMessage e.message
  write fs path text :=
    match fs.write path text with
    | .ok fs => (fs, .ok ())
    | .error e => (fs, .error (.ofMessage e.message))

/-- What is wrong with a library that cannot be decoded. -/
def undecodable : Text := "no document, or a known key has a value of the wrong kind".toList

def tools : Tools Files Place Text where
  disk := disk
  parse args := (parse args).mapError Usage.halt
  decode t :=
    match LibraryDraft.ofToml? t with
    | some d => .ok d
    | none => .error (.ofMessage undecodable)
  ftml :=
    { read := fun t => (Ftml.read t).mapError fun e => .ofMessage e.message
      write := fun d => .ok (Ftml.write d) }
  markdown :=
    { read := fun t => .ok (Markdown.read t)
      write := fun d => .ok (Markdown.write d) }
  report := Failure.report

def execute (fs : Files) (args : List Text) : Outcome Files := tools.execute fs args

end CitationNotes.Command
