import CitationNotes.Command.Program
import CitationNotes.Text.Visible

/-!
A reader of arguments.

The first argument names a command. Options and the library may follow in any order; two
dashes end the options. A value is read when the argument behind it comes, or at the end, so
that an argument that nobody knows is reported before a value that is wrong. A call for help is
an argument that is known: it is heard only if the values in front of it are right. Like a fault,
it leaves no request behind.
-/

namespace CitationNotes.Command

inductive Name where
  | check
  | cite
  | footnote
deriving DecidableEq, Repr

def Name.text : Name → Text
  | .check => "check".toList
  | .cite => "cite".toList
  | .footnote => "footnote".toList

/-- What help can be about. -/
inductive Topic where
  | program
  | command (name : Name)
  | help
deriving DecidableEq, Repr

/-- The first line of the help. -/
def Topic.about : Topic → Text
  | .program => "Expand citation templates and place footnotes in documents".toList
  | .command .check => "Load a template library and report problems".toList
  | .command .cite => "Print the bibliography entry and footnote for one source".toList
  | .command .footnote => "Insert a footnote citing a source into a document".toList
  | .help => "Print this message or the help of the given subcommand(s)".toList

inductive Argument where
  | library
  | source
  | field
  | footnoteOnly
  | document
  | position
  | output
deriving DecidableEq, Repr

namespace Argument

/-- The argument with its value, as usage texts have it. -/
def display : Argument → Text
  | library => "<LIBRARY>".toList
  | source => "--source <SOURCE>".toList
  | field => "--field <FIELDS>".toList
  | footnoteOnly => "--footnote".toList
  | document => "--document <DOCUMENT>".toList
  | position => "--position <POSITION>".toList
  | output => "--output <OUTPUT>".toList

def long? : Argument → Option Text
  | library => none
  | source => some "source".toList
  | field => some "field".toList
  | footnoteOnly => some "footnote".toList
  | document => some "document".toList
  | position => some "position".toList
  | output => some "output".toList

def short? : Argument → Option Char
  | library => none
  | source => some 's'
  | field => some 'f'
  | footnoteOnly => none
  | document => some 'd'
  | position => some 'p'
  | output => some 'o'

def isFlag : Argument → Bool
  | footnoteOnly => true
  | _ => false

/-- Whether the value is a path, which cannot be empty. -/
def isPath : Argument → Bool
  | library => true
  | document => true
  | output => true
  | _ => false

end Argument

def Name.arguments : Name → List Argument
  | .check => [.library]
  | .cite => [.library, .source, .field, .footnoteOnly]
  | .footnote => [.library, .source, .document, .position, .field, .output]

def Name.required : Name → List Argument
  | .check => [.library]
  | .cite => [.library, .source]
  | .footnote => [.library, .source, .document, .position]

/-- Why there is no request. -/
inductive Usage where
  | help (topic : Topic)
  | version
  | noArguments
  | unknownCommand (word : Text)
  | unexpected (word : Text)
  | unexpectedValue (value flag : Text)
  | valueMissing (a : Argument)
  | repeated (a : Argument)
  | badField (value : Text)
  | badPosition (value : Text) (fault : Text.NumberFault)
  | missing (as : List Argument)
deriving DecidableEq, Repr

/-- What the user typed, set off from the message around it. -/
def marked (t : Text) : Text := "\x1b[33m".toList ++ t ++ "\x1b[0m".toList

/-- The end of every message. -/
def hint : Text :=
  "\n\nFor more information, try '".toList ++ marked "--help".toList ++ "'.".toList

/-- What is said, for a terminal. -/
def Usage.display : Usage → Text
  | .help topic => topic.about
  | .version => "citeweave 0.1.0".toList
  | .noArguments => Topic.about .program
  | .unknownCommand w => "unrecognized subcommand '".toList ++ marked w ++ ['\'']
  | .unexpected w => "unexpected argument '".toList ++ marked w ++ "' found".toList
  | .unexpectedValue v flag =>
    "unexpected value '".toList ++ marked v ++ "' for '".toList ++ marked flag ++
      "' found; no more were expected".toList
  | .valueMissing a =>
    "a value is required for '".toList ++ a.display ++ "' but none was supplied".toList
  | .repeated a =>
    "the argument '".toList ++ a.display ++ "' cannot be used multiple times".toList
  | .badField v =>
    "invalid value '".toList ++ marked v ++ "' for '".toList ++ Argument.field.display ++
      "': expected name=text, got `".toList ++ v ++ ['\x60']
  | .badPosition v e =>
    "invalid value '".toList ++ marked v ++ "' for '".toList ++ Argument.position.display ++
      "': ".toList ++ e.message
  | .missing as =>
    "the following required arguments were not provided:".toList ++
      as.flatMap fun a => "\n  ".toList ++ a.display

/-- The end of the run. In a file, which control sequences are kept out of, only what is visible of
a fault shows. -/
def Usage.halt (u : Usage) : Halt :=
  match u with
  | .help _ => ⟨0, line u.display, []⟩
  | .version => ⟨0, line u.display, []⟩
  | .noArguments => ⟨2, [], line u.display⟩
  | u => ⟨2, [], line ("error: ".toList ++ Text.visible (u.display ++ hint))⟩

/-! ### The state between arguments -/

/-- The arguments read so far. -/
structure Given where
  texts : List (Argument × Text)
  fields : List (Text × Text)
  position : Option Nat
  footnoteOnly : Bool
deriving DecidableEq, Repr

namespace Given

def init : Given := ⟨[], [], none, false⟩

def text? (g : Given) (a : Argument) : Option Text := g.texts.lookup a

def has (g : Given) (a : Argument) : Bool :=
  match a with
  | .field => !g.fields.isEmpty
  | .position => g.position.isSome
  | .footnoteOnly => g.footnoteOnly
  | a => (g.text? a).isSome

/-- The highest position that can be asked for. -/
def positionBound : Nat := 18446744073709551615

/-- A name and a text with the first equals sign between them. -/
def field? (v : Text) : Option (Text × Text) :=
  match Text.cutAt? '=' v with
  | some (name, text) => if name.isEmpty then none else some (name, text)
  | none => none

/-- One more argument with its value, which a flag does not look at. -/
def add (g : Given) (a : Argument) (v : Text) : Except Usage Given :=
  if a != .field && g.has a then .error (.repeated a)
  else if a.isPath && v.isEmpty then .error (.valueMissing a)
  else
    match a with
    | .field =>
      match field? v with
      | some f => .ok { g with fields := g.fields ++ [f] }
      | none => .error (.badField v)
    | .position =>
      match Text.readDecimal positionBound v with
      | .ok n => .ok { g with position := some n }
      | .error e => .error (.badPosition v e)
    | .footnoteOnly => .ok { g with footnoteOnly := true }
    | a => .ok { g with texts := g.texts ++ [(a, v)] }

end Given

/-- The arguments read so far, the one that is waiting for its value or to have it read, and
whether only plain values can follow. -/
structure State where
  given : Given
  pending : Option (Argument × Option Text)
  plain : Bool
deriving DecidableEq, Repr

namespace State

def init : State := ⟨.init, none, false⟩

/-- The pending value read. -/
def settle (s : State) : Except Usage State :=
  match s.pending with
  | none => .ok s
  | some (a, none) => .error (.valueMissing a)
  | some (a, some v) => (s.given.add a v).map fun g => ⟨g, none, s.plain⟩

/-- An option, with the value that is attached to it. -/
def option (s : State) (a : Argument) (attached : Option Text) : Except Usage State :=
  match a.isFlag, attached with
  | true, some v => .error (.unexpectedValue v a.display)
  | false, none => s.settle.map fun s => { s with pending := some (a, none) }
  | _, v =>
    s.settle.bind fun s =>
      (s.given.add a (v.getD [])).map fun g => { s with given := g }

/-- A value without an option: the library, if there is none yet. -/
def value (s : State) (v : Text) : Except Usage State :=
  let taken := s.given.has .library || s.pending.any fun p => p.1 == .library
  if taken then .error (.unexpected v)
  else s.settle.map fun s => { s with pending := some (.library, some v) }

end State

/-- A long option, and the value that an equals sign attaches to it. -/
def detach (word : Text) : Text × Option Text :=
  match Text.cutAt? '=' word with
  | some (w, v) => (w, some v)
  | none => (word, none)

/-- A flag that leaves no request, if no value is attached to it. -/
def conclude (u : Usage) (word : Text) (attached : Option Text) : Usage :=
  match attached with
  | none => u
  | some v => .unexpectedValue v ('-' :: '-' :: word)

def long (name : Name) (s : State) (word : Text) : Except Usage State :=
  let (word, attached) := detach word
  match name.arguments.find? fun a => a.long? == some word with
  | some a => s.option a attached
  | none =>
    if word = "help".toList then
      match attached with
      | some v => .error (.unexpectedValue v "--help".toList)
      | none => s.settle.bind fun _ => .error (.help (.command name))
    else .error (.unexpected ('-' :: '-' :: word))

def short (name : Name) (s : State) (c : Char) (rest : Text) : Except Usage State :=
  match name.arguments.find? fun a => a.short? == some c with
  | some a =>
    let attached :=
      match rest with
      | [] => none
      | '=' :: v => some v
      | v => some v
    s.option a attached
  | none =>
    if c = 'h' then s.settle.bind fun _ => .error (.help (.command name))
    else .error (.unexpected ['-', c])

def step (name : Name) (s : State) (word : Text) : Except Usage State :=
  if s.plain then s.value word
  else
    match word with
    | ['-', '-'] => .ok { s with plain := true }
    | '-' :: '-' :: w => long name s w
    | '-' :: c :: w => short name s c w
    | _ =>
      match s.pending with
      | some (a, none) => .ok { s with pending := some (a, some word) }
      | _ => s.value word

/-- The request of a command whose arguments have all been read. -/
def finish (name : Name) (g : Given) : Except Usage Request :=
  let text (a : Argument) := (g.text? a).getD []
  match name.required.filter fun a => !g.has a with
  | [] =>
    match name with
    | .check => .ok (.check (text .library))
    | .cite => .ok (.cite (text .library) (text .source) g.fields g.footnoteOnly)
    | .footnote =>
      .ok (.footnote (text .library) (text .source) (text .document) (g.position.getD 0) g.fields
        (g.text? .output))
  | as => .error (.missing as)

def run (name : Name) (s : State) : List Text → Except Usage Request
  | [] => s.settle.bind fun s => finish name s.given
  | word :: words => (step name s word).bind fun s => run name s words

def Name.ofText? (w : Text) : Option Name :=
  [Name.check, .cite, .footnote].find? fun n => n.text == w

def Topic.ofText? (w : Text) : Option Topic :=
  if w = "help".toList then some .help else (Name.ofText? w).map .command

/-- The request behind the two dashes that stand where a command should. -/
def afterDashes : List Text → Usage
  | [] => .noArguments
  | w :: _ =>
    if (Topic.ofText? w).isSome then .unexpected w else .unknownCommand w

/-- Help on a command, which has no further commands in it, or on the whole program. -/
def help : List Text → Usage
  | [] => .help .program
  | w :: words =>
    match Topic.ofText? w, words with
    | some topic, [] => .help topic
    | some _, w :: _ => .unknownCommand w
    | none, _ => .unknownCommand w

def parse : List Text → Except Usage Request
  | [] => .error .noArguments
  | word :: words =>
    match Name.ofText? word with
    | some name => run name .init words
    | none =>
      .error <|
        if word = "help".toList then help words
        else
          match word with
          | ['-', '-'] => afterDashes words
          | '-' :: '-' :: w =>
            let (w, attached) := detach w
            if w = "help".toList then conclude (.help .program) w attached
            else if w = "version".toList then conclude .version w attached
            else .unexpected ('-' :: '-' :: w)
          | '-' :: c :: _ =>
            if c = 'h' then .help .program
            else if c = 'V' then .version
            else .unexpected ['-', c]
          | w => .unknownCommand w

end CitationNotes.Command
