import CitationNotes.Library.Draft
import CitationNotes.Toml.Document

/-!
Drafts read from TOML.

Keys that mean nothing here are passed over, whatever their values. Any other key must have a
value of its kind, or there is no draft at all. Where a record is expected, an array stands
for its members in order, and then the members up to the last that may not be missing have
to be there; a moment stands for a record without members.
-/

namespace CitationNotes

/-- The members of a record, by name or in order. -/
inductive Toml.Record where
  | named (entries : Toml.Entries)
  | ordered (values : List Toml.Value)

namespace Toml

namespace Value

def record? : Value → Option Record
  | inline es => some (.named es)
  | table _ es => some (.named es)
  | moment _ => some (.named [])
  | array vs => some (.ordered vs)
  | tables els => some (.ordered (els.map fun es => .table .header es))
  | _ => none

def list? : Value → Option (List Value)
  | array vs => some vs
  | tables els => some (els.map fun es => .table .header es)
  | _ => none

def text? : Value → Option Text
  | text t => some t
  | _ => none

def boolean? : Value → Option Bool
  | boolean b => some b
  | _ => none

/-- Whether the value is a table or an array with nothing in it. -/
def isHollow : Value → Bool
  | inline es => es.isEmpty
  | table _ es => es.isEmpty
  | array vs => vs.isEmpty
  | tables els => els.isEmpty
  | _ => false

/-- A word of a fixed set: its text, or a table with that text for its only key and a hollow
value. -/
def choice? : Value → Option Text
  | text t => some t
  | inline [(key, v)] => if v.isHollow then some key else none
  | table _ [(key, v)] => if v.isHollow then some key else none
  | _ => none

end Value

namespace Record

def member? (r : Record) (index : Nat) (key : String) : Option Value :=
  match r with
  | named es => es.value? key.toList
  | ordered vs => vs[index]?

/-- A text that a named record may lack. -/
def text? (r : Record) (index : Nat) (key : String) : Option (Option Text) :=
  match r.member? index key, r with
  | some v, _ => v.text?.map some
  | none, named _ => some none
  | none, ordered _ => none

/-- A member that any record may lack. -/
def default? {α : Type} (r : Record) (index : Nat) (key : String) (value : α)
    (read : Value → Option α) : Option α :=
  match r.member? index key with
  | some v => read v
  | none => some value

end Record

end Toml

open Toml (Value)

def InputKind.ofText? (t : Text) : Option InputKind :=
  if t = "text".toList then some .text
  else if t = "link".toList then some .link
  else if t = "date".toList then some .date
  else none

def InputDraft.ofValue? (v : Value) : Option InputDraft := do
  let r ← v.record?
  let kind ← r.default? 0 "kind" InputKind.text fun v => v.choice?.bind InputKind.ofText?
  let name ← r.text? 1 "name"
  let title ← r.text? 2 "title"
  let bold ← r.default? 3 "bold" false Value.boolean?
  let italic ← r.default? 4 "italic" false Value.boolean?
  some ⟨kind, name, title, bold, italic⟩

def SourceDraft.ofValue? (v : Value) : Option SourceDraft := do
  let r ← v.record?
  let title ← r.text? 0 "title"
  let bibliography ← r.text? 1 "bibliography"
  let footnote ← r.text? 2 "footnote"
  let inputs ← r.default? 3 "input" [] fun v => v.list?.bind (·.mapM InputDraft.ofValue?)
  some ⟨title, bibliography, footnote, inputs⟩

def CategoryDraft.ofValue? (v : Value) : Option CategoryDraft := do
  let r ← v.record?
  let title ← r.text? 0 "title"
  let sources ← r.default? 1 "source" [] fun v => v.list?.bind (·.mapM SourceDraft.ofValue?)
  some ⟨title, sources⟩

/-- The draft in a TOML document, if the document and all that matters in it are in order. -/
def LibraryDraft.ofToml? (t : Text) : Option LibraryDraft := do
  let r := Toml.Record.named (← Toml.document? t)
  let title ← r.text? 0 "title"
  let categories ← r.default? 1 "category" [] fun v =>
    v.list?.bind (·.mapM CategoryDraft.ofValue?)
  some ⟨title, categories⟩

end CitationNotes
