import CitationNotes.Text.Search

/-!
Files at hand, and the paths to them.

A path is walked name by name, and every name but the last has to lead to a directory. Two dots
lead to the directory above, which exists also above the place where the run starts. A file can
be written where its directory exists. All files hold text, and nobody is kept from any of them.
-/

namespace CitationNotes

/-- The contents of the files by their paths, and the directories that exist besides those that
the files lie in. -/
structure Files where
  contents : List (Text × Text)
  directories : List Text
deriving DecidableEq, Repr

/-- Where a path leads: the names from where the run starts. The names of a place above it start
with two dots, and those of a place under the root with an empty one. -/
abbrev Place := List Text

namespace Files

/-- Why a file cannot be read or written. -/
inductive Fault where
  | notFound
  | notDirectory
  | isDirectory
  | nameTooLong
deriving DecidableEq, Repr

def Fault.message : Fault → Text
  | .notFound => "No such file or directory (os error 2)".toList
  | .notDirectory => "Not a directory (os error 20)".toList
  | .isDirectory => "Is a directory (os error 21)".toList
  | .nameTooLong => "File name too long (os error 36)".toList

/-! ### Places -/

def dot : Text := ['.']

def dots : Text := ['.', '.']

/-- The names in a path, an empty one in front if it starts at the root. -/
def names (path : Text) : List Text :=
  let ns := (path.splitOn '/').filter fun n => !n.isEmpty
  if path.head? = some '/' then [] :: ns else ns

/-- Where a name leads from a directory. -/
def enter (p : Place) (name : Text) : Place :=
  if name.isEmpty then [name]
  else if name = dot then p
  else if name = dots then
    match p.getLast? with
    | none => [dots]
    | some last => if last = dots then p ++ [dots] else if last.isEmpty then p else p.dropLast
  else p ++ [name]

def place (path : Text) : Place := (names path).foldl enter []

def hasDirectory (fs : Files) (p : Place) : Bool :=
  p == [[]] || p.all (· == dots) || fs.directories.any (fun d => place d == p) ||
    fs.contents.any fun f => p.isPrefixOf (place f.1) && place f.1 != p

def content? (fs : Files) (p : Place) : Option Text :=
  (fs.contents.find? fun f => place f.1 == p).map Prod.snd

/-! ### Walks -/

/-- The bytes that a name can have. -/
def nameBound : Nat := 255

/-- The bytes that a path can have. -/
def pathBound : Nat := 4095

/-- Where a name leads, from a place that may be none or no directory. -/
def step (fs : Files) (p : Place) (name : Text) : Except Fault Place :=
  if (fs.content? p).isSome then .error .notDirectory
  else if !fs.hasDirectory p then .error .notFound
  else if nameBound < Text.byteLength name then .error .nameTooLong
  else .ok (enter p name)

def walk (fs : Files) (p : Place) : List Text → Except Fault Place
  | [] => .ok p
  | name :: ns => (fs.step p name).bind fun p => fs.walk p ns

/-- The names of a path that can be walked. -/
def walkable (path : Text) : Except Fault (List Text) :=
  if path.isEmpty then .error .notFound
  else if pathBound < Text.byteLength path then .error .nameTooLong
  else .ok (names path)

def endsInSlash (path : Text) : Bool := path.getLast? == some '/'

def read (fs : Files) (path : Text) : Except Fault Text := do
  let p ← fs.walk [] (← walkable path)
  if fs.hasDirectory p then .error .isDirectory
  else
    match fs.content? p with
    | some t => if endsInSlash path then .error .notDirectory else .ok t
    | none => .error .notFound

/-- The contents with that of a path set. -/
def set (path content : Text) : List (Text × Text) → List (Text × Text)
  | [] => [(path, content)]
  | f :: fs =>
    if place f.1 = place path then (f.1, content) :: fs else f :: set path content fs

/-- A path that ends in a slash is taken for one of a directory, wherever it leads from the
directory in front of its last name. -/
def write (fs : Files) (path content : Text) : Except Fault Files := do
  let ns ← walkable path
  if endsInSlash path then
    let _ ← fs.walk [] (ns.dropLast ++ [dot])
    .error .isDirectory
  else
    let p ← fs.walk [] ns
    if fs.hasDirectory p then .error .isDirectory
    else .ok { fs with contents := set path content fs.contents }

/-- What follows the last dot of the last name, unless that is the first character of it. -/
def suffix? (path : Text) : Option Text :=
  match ((names path).filter (· != dot)).getLast? with
  | none => none
  | some name =>
    match (name.drop 1).splitOn '.' with
    | [] => none
    | [_] => none
    | pieces => pieces.getLast?

end Files

end CitationNotes
