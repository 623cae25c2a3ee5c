import CitationNotes.Toml.Number

/-!
TOML documents.

A document is read line by line into items, headers and assignments, which then build its
tables. Arrays, inline tables and keys nest up to a fixed depth.
-/

namespace CitationNotes.Toml

/-- How deep values may nest, and how many parts a key may have, plus one. -/
def depthLimit : Nat := 80

def isBareChar (c : Char) : Bool := c.isAlphanum || c == '_' || c == '-'

def keyPart? : Reader Text
  | '"' :: t => basic? t.length t
  | '\'' :: t => literal? t
  | t =>
    let part := t.takeWhile isBareChar
    if part.isEmpty then none else some (part, t.dropWhile isBareChar)

/-- A key of at most `n` parts, with the blanks around it. -/
def keyParts? : Nat → Reader (List Text)
  | 0, _ => none
  | n + 1, t => do
    let (part, t) ← keyPart? (skipBlanks t)
    match skipBlanks t with
    | '.' :: t => (keyParts? n t).map fun p => (part :: p.1, p.2)
    | t => some ([part], t)

/-- The tables that a key leads through, and its last part. -/
structure Key where
  path : List Text
  last : Text

def key? (t : Text) : Option (Key × Text) :=
  (keyParts? (depthLimit - 1) t).map fun p => (⟨p.1.dropLast, p.1.getLast?.getD []⟩, p.2)

/-! ### Values -/

/-- The rest of an array, of at most `n` items. -/
def items? (item : Reader Value) : Nat → Reader (List Value)
  | 0, _ => none
  | n + 1, t => do
    match ← skipSpace false t with
    | ']' :: t => some ([], t)
    | t =>
      let (v, t) ← item t
      match ← skipSpace false t with
      | ',' :: t => (items? item n t).map fun p => (v :: p.1, p.2)
      | ']' :: t => some ([v], t)
      | _ => none

/-- The rest of an inline table that has some entries already, reading at most `n` more. -/
def fields? (item : Reader Value) : Nat → Entries → Reader Entries
  | 0, _, _ => none
  | n + 1, es, t => do
    let (key, t) ← key? t
    let (v, t) ← item (skipBlanks (← expect? '=' t))
    let es ← es.assign? key.path key.last v
    match skipBlanks t with
    | ',' :: t => fields? item n es t
    | '}' :: t => some (es, t)
    | _ => none

/-- A value that nests less than `depth` levels deep. -/
def value? : (depth : Nat) → Reader Value
  | 0, _ => none
  | depth + 1, t =>
    match t with
    | '[' :: t =>
      if depth = 0 then none
      else (items? (value? depth) (t.length + 1) t).map fun p => (.array p.1, p.2)
    | '{' :: t =>
      if depth = 0 then none
      else
        match skipBlanks t with
        | '}' :: t => some (.inline [], t)
        | t => (fields? (value? depth) (t.length + 1) [] t).map fun p => (.inline p.1, p.2)
    | '"' :: _ => (string? t).map fun p => (.text p.1, p.2)
    | '\'' :: _ => (string? t).map fun p => (.text p.1, p.2)
    | t => literalValue? t

/-! ### Lines -/

inductive Item where
  | header (key : Key)
  | element (key : Key)
  | assign (key : Key) (v : Value)

/-- A line other than an empty one, with its end. -/
def item? : Reader Item
  | '[' :: '[' :: t => do
    let (key, t) ← key? t
    some (.element key, ← lineEnd? (← expect? ']' (← expect? ']' t)))
  | '[' :: t => do
    let (key, t) ← key? t
    some (.header key, ← lineEnd? (← expect? ']' t))
  | t => do
    let (key, t) ← key? t
    let (v, t) ← value? depthLimit (skipBlanks (← expect? '=' t))
    some (.assign key v, ← lineEnd? t)

/-- The items of at most `n` lines. -/
def itemLines? : Nat → Text → Option (List Item)
  | 0, _ => none
  | n + 1, t =>
    match skipBlanks t with
    | [] => some []
    | '#' :: t => (lineEnd? ('#' :: t)).bind (itemLines? n)
    | c :: t =>
      if c = '\n' || c = '\r' then (newline? (c :: t)).bind (itemLines? n)
      else do
        let (item, t) ← item? (c :: t)
        (itemLines? n t).map (item :: ·)

/-- The tables so far, and the path to the one that assignments go to. -/
structure Build where
  root : Entries
  current : List Text

namespace Build

def init : Build := ⟨[], []⟩

def change (b : Build) (path : List Text) (f : Entries → Option Entries) : Option Entries :=
  b.root.changeAt false (fun _ => f) path .header

def step (b : Build) : Item → Option Build
  | .header key =>
    (b.change key.path (Entries.openTable? key.last)).map fun root =>
      ⟨root, key.path ++ [key.last]⟩
  | .element key =>
    (b.change key.path (Entries.openElement? key.last)).map fun root =>
      ⟨root, key.path ++ [key.last]⟩
  | .assign key v =>
    (b.change b.current (Entries.assign? key.path key.last v)).map fun root =>
      ⟨root, b.current⟩

def run (b : Build) : List Item → Option Build
  | [] => some b
  | item :: items => (b.step item).bind fun b => b.run items

end Build

/-- The entries of a document. A byte order mark in front of it does not count. -/
def document? (t : Text) : Option Entries := do
  let t := match t with
    | '\uFEFF' :: t => t
    | t => t
  let items ← itemLines? (t.length + 1) t
  (Build.init.run items).map Build.root

end CitationNotes.Toml
