import CitationNotes.Text.Basic

/-!
The values of a TOML document.

Numbers, dates and times keep their spelling, for nothing here computes with them. A table
remembers how it came to be, because that decides who may still add to it.
-/

namespace CitationNotes.Toml

/-- How a table came to be: under a header of its own, on the way to a header further down, or
on the way to a dotted key. -/
inductive Origin where
  | header
  | implied
  | dotted
deriving DecidableEq, Repr

inductive Value where
  | text (t : Text)
  | boolean (b : Bool)
  | number (literal : Text)
  | moment (literal : Text)
  | array (items : List Value)
  /-- A table between braces, to which nothing can be added. -/
  | inline (entries : List (Text × Value))
  | table (origin : Origin) (entries : List (Text × Value))
  /-- The tables under the double headers of one name. -/
  | tables (elements : List (List (Text × Value)))
deriving Repr

abbrev Entries := List (Text × Value)

namespace Entries

def value? (es : Entries) (key : Text) : Option Value := es.lookup key

/-- The entries with the value of a key set, at its old place or at the end. -/
def set (key : Text) (v : Value) : Entries → Entries
  | [] => [(key, v)]
  | e :: es => if e.1 = key then (key, v) :: es else e :: set key v es

/-- The entries changed at the end of a path of tables, missing ones made on the way. A dotted
path does not lead through tables that have headers of their own; any path leads into the
last of several tables of one name. `change` gets the origin of the table that it changes. -/
def changeAt (dotted : Bool) (change : Origin → Entries → Option Entries) :
    List Text → Origin → Entries → Option Entries
  | [], origin, es => change origin es
  | key :: path, _, es =>
    match es.value? key with
    | none =>
      let origin := if dotted then .dotted else .implied
      (changeAt dotted change path origin []).map fun sub => es.set key (.table origin sub)
    | some (.table origin sub) =>
      if dotted && origin == .header then none
      else (changeAt dotted change path origin sub).map fun sub => es.set key (.table origin sub)
    | some (.tables elements) =>
      (changeAt dotted change path .header (elements.getLast?.getD [])).map fun sub =>
        es.set key (.tables (elements.dropLast ++ [sub]))
    | some _ => none

/-- A key that has no value yet gets one. -/
def add? (key : Text) (v : Value) (es : Entries) : Option Entries :=
  match es.value? key with
  | none => some (es.set key v)
  | some _ => none

/-- The value of a dotted key, in the table it belongs to and those on the way to it. -/
def assign? (path : List Text) (key : Text) (v : Value) (es : Entries) : Option Entries :=
  changeAt true
    (fun origin es => if (origin == .dotted) == path.isEmpty then none else es.add? key v)
    path .header es

/-- A table gets its header. -/
def openTable? (key : Text) (es : Entries) : Option Entries :=
  match es.value? key with
  | none => some (es.set key (.table .header []))
  | some (.table .implied sub) => some (es.set key (.table .header sub))
  | some _ => none

/-- One more table under a double header. -/
def openElement? (key : Text) (es : Entries) : Option Entries :=
  match es.value? key with
  | none => some (es.set key (.tables [[]]))
  | some (.tables elements) => some (es.set key (.tables (elements ++ [[]])))
  | some _ => none

end Entries

end CitationNotes.Toml
