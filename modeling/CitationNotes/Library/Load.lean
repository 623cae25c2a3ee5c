import CitationNotes.Library.Draft
import CitationNotes.Template.Check
import CitationNotes.Template.Lint

/-!
A library made from its draft.

Loading never stops: an entry that cannot be used is left out with everything in it, and the
rest is loaded. Each remark on the way is kept, and the report and the log are two views of
the remarks.
-/

namespace CitationNotes

structure Category where
  title : Text
  sources : List Source
deriving DecidableEq, Repr

structure Library where
  title : Text
  categories : List Category
deriving DecidableEq, Repr

namespace Library

def sources (l : Library) : List Source := l.categories.flatMap Category.sources

/-- The source type with the title; of several, the first. -/
def source? (l : Library) (title : Text) : Option Source :=
  l.sources.find? fun s => s.title == title

end Library

inductive TemplateRole where
  | bibliography
  | footnote
deriving DecidableEq, Repr

def TemplateRole.name : TemplateRole → Text
  | .bibliography => "bibliography".toList
  | .footnote => "footnote".toList

/-- Why an entry was left out. Entries without a title go by their number, from one. -/
inductive Skip where
  | untitledCategory (number : Nat)
  | emptyCategory (category : Text)
  | untitledSource (number : Nat) (category : Text)
  | missingTemplate (source : Text) (role : TemplateRole)
  | invalidTemplate (source : Text) (role : TemplateRole) (fault : Template.Fault)
  | noInputs (source : Text)
  | untitledInput (source : Text)
  | unnamedInput (input : Text)
  | invalidName (input : Text) (fault : FieldName.Fault)
deriving DecidableEq, Repr

def Skip.message : Skip → Text
  | .untitledCategory n => "category #".toList ++ Text.decimal n ++ " is missing a title".toList
  | .emptyCategory c => "category '".toList ++ c ++ "' doesn't contain any source types".toList
  | .untitledSource n c =>
    "source type #".toList ++ Text.decimal n ++ " in ".toList ++ c ++ " is missing a title".toList
  | .missingTemplate s role => "source type ".toList ++ s ++ " is missing a ".toList ++ role.name
  | .invalidTemplate s role e =>
    "source '".toList ++ s ++ "' has an invalid ".toList ++ role.name ++ " template: ".toList ++
      e.message
  | .noInputs s => "source '".toList ++ s ++ "' doesn't contain any inputs".toList
  | .untitledInput s => "input in ".toList ++ s ++ " is missing a title".toList
  | .unnamedInput i => "input ".toList ++ i ++ " is missing a name".toList
  | .invalidName i e => "input '".toList ++ i ++ "' has an invalid name: ".toList ++ e.message

/-- What happens while a library is loaded. -/
inductive Remark where
  | reading (category : Text)
  | skipped (skip : Skip)
  | suspicious (source : Text) (role : TemplateRole) (warning : Template.Warning)
  | loaded (source : Text) (inputs : Nat)
deriving DecidableEq, Repr

namespace Remark

def skip? : Remark → Option Skip
  | skipped s => some s
  | _ => none

def warning? : Remark → Option (Text × Template.Warning)
  | suspicious source _ w => some (source, w)
  | _ => none

def event : Remark → Log.Event
  | reading c => Log.debug "reading source types" [("category", c)]
  | skipped s => Log.warn "skipping library entry" [("error", s.message)]
  | suspicious s role w =>
    ⟨.warn, "suspicious ".toList ++ role.name ++ " template".toList,
      [("source".toList, s), ("warning".toList, w.details)]⟩
  | loaded s n => Log.debug "loaded source type" [("source", s), ("inputs", Text.decimal n)]

end Remark

/-- The entries left out, and the warnings on templates with the titles of their sources. -/
structure Report where
  skipped : List Skip
  warnings : List (Text × Template.Warning)
deriving DecidableEq, Repr

namespace Report

def isClean (r : Report) : Bool := r.skipped.isEmpty && r.warnings.isEmpty

def ofRemarks (rs : List Remark) : Report :=
  ⟨rs.filterMap Remark.skip?, rs.filterMap Remark.warning?⟩

end Report

/-! ### The levels of a draft -/

/-- The input, with an empty text, or why there is none. -/
def InputDraft.load (source : Text) (d : InputDraft) : Except Skip Input :=
  match d.title, d.name with
  | none, _ => .error (.untitledInput source)
  | some title, none => .error (.unnamedInput title)
  | some title, some name =>
    match FieldName.fault? name with
    | some e => .error (.invalidName title e)
    | none => .ok ⟨d.kind, name, title, [], d.bold, d.italic⟩

/-- The inputs that can be used, and a remark on each of the others. -/
def InputDraft.loadAll (source : Text) : List InputDraft → List Input × List Remark
  | [] => ([], [])
  | d :: ds =>
    let rest := loadAll source ds
    match d.load source with
    | .ok i => (i :: rest.1, rest.2)
    | .error e => (rest.1, .skipped e :: rest.2)

/-- A template that passes its check, with the remarks on it. -/
def loadTemplate (source : Text) (role : TemplateRole) (template : Option Text) :
    Except Skip (Text × List Remark) :=
  match template with
  | none => .error (.missingTemplate source role)
  | some t =>
    match Template.fault? t with
    | some e => .error (.invalidTemplate source role e)
    | none => .ok (t, (Template.lint t).map (.suspicious source role))

namespace SourceDraft

/-- The form of a source whose templates are in order. -/
def loadForm (title bibliography footnote : Text) (ds : List InputDraft) :
    Option Source × List Remark :=
  match InputDraft.loadAll title ds with
  | ([], rs) => (none, rs ++ [.skipped (.noInputs title)])
  | (is, rs) => (some ⟨title, bibliography, footnote, is⟩, rs ++ [.loaded title is.length])

def load (category : Text) (number : Nat) (d : SourceDraft) : Option Source × List Remark :=
  match d.title with
  | none => (none, [.skipped (.untitledSource number category)])
  | some title =>
    match loadTemplate title .bibliography d.bibliography with
    | .error e => (none, [.skipped e])
    | .ok (bibliography, rs) =>
      match loadTemplate title .footnote d.footnote with
      | .error e => (none, rs ++ [.skipped e])
      | .ok (footnote, rs') =>
        let form := loadForm title bibliography footnote d.inputs
        (form.1, rs ++ rs' ++ form.2)

/-- The sources that can be used, the first draft having the given number. -/
def loadAll (category : Text) (number : Nat) : List SourceDraft → List Source × List Remark
  | [] => ([], [])
  | d :: ds =>
    let first := d.load category number
    let rest := loadAll category (number + 1) ds
    (first.1.toList ++ rest.1, first.2 ++ rest.2)

end SourceDraft

namespace CategoryDraft

def load (number : Nat) (d : CategoryDraft) : Option Category × List Remark :=
  match d.title with
  | none => (none, [.skipped (.untitledCategory number)])
  | some title =>
    match SourceDraft.loadAll title 1 d.sources with
    | ([], rs) => (none, .reading title :: rs ++ [.skipped (.emptyCategory title)])
    | (ss, rs) => (some ⟨title, ss⟩, .reading title :: rs)

def loadAll (number : Nat) : List CategoryDraft → List Category × List Remark
  | [] => ([], [])
  | d :: ds =>
    let first := d.load number
    let rest := loadAll (number + 1) ds
    (first.1.toList ++ rest.1, first.2 ++ rest.2)

end CategoryDraft

def LibraryDraft.load (d : LibraryDraft) : Library × List Remark :=
  let categories := CategoryDraft.loadAll 1 d.categories
  (⟨d.title.getD [], categories.1⟩, categories.2)

end CitationNotes
