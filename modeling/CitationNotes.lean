import CitationNotes.Bibliography.Layout
import CitationNotes.Bibliography.Order
import CitationNotes.Command.Arguments
import CitationNotes.Command.Files
import CitationNotes.Command.Program
import CitationNotes.Command.Run
import CitationNotes.Condition.Groups
import CitationNotes.Condition.Line
import CitationNotes.Condition.Substitution
import CitationNotes.Document.Basic
import CitationNotes.Document.Span
import CitationNotes.Footnote.Location
import CitationNotes.Footnote.Marker
import CitationNotes.Library.Decode
import CitationNotes.Library.Draft
import CitationNotes.Library.Load
import CitationNotes.Library.Source
import CitationNotes.Log
import CitationNotes.Main
import CitationNotes.Markup.Entity
import CitationNotes.Markup.Ftml
import CitationNotes.Markup.Markdown.Emphasis
import CitationNotes.Markup.Markdown.Piece
import CitationNotes.Markup.Markdown.Read
import CitationNotes.Markup.Markdown.Write
import CitationNotes.Markup.Space
import CitationNotes.Runs.Basic
import CitationNotes.Runs.Normal
import CitationNotes.Runs.Splice
import CitationNotes.Stable
import CitationNotes.Template.Check
import CitationNotes.Template.Expansion
import CitationNotes.Template.Field
import CitationNotes.Template.Lint
import CitationNotes.Template.Placeholder
import CitationNotes.Text.Basic
import CitationNotes.Text.Decimal
import CitationNotes.Text.Letter
import CitationNotes.Text.Lowercase
import CitationNotes.Text.Printable
import CitationNotes.Text.Punctuation
import CitationNotes.Text.Search
import CitationNotes.Text.Visible
import CitationNotes.Toml.Blank
import CitationNotes.Toml.Document
import CitationNotes.Toml.Number
import CitationNotes.Toml.Str
import CitationNotes.Toml.Value
import CitationNotes.Proofs.Runs.Cells
import CitationNotes.Proofs.Template.Segments
import CitationNotes.Proofs.Template.Reading
import CitationNotes.Proofs.Condition.Syntax
import CitationNotes.Proofs.Condition.Turns
import CitationNotes.Proofs.Condition.Truth
import CitationNotes.Proofs.Footnote.Numbering
import CitationNotes.Proofs.Footnote.Placement
import CitationNotes.Proofs.Document.ReadBack
import CitationNotes.Proofs.Document.Writing
import CitationNotes.Proofs.Template.Markers
import CitationNotes.Proofs.Document.Annotation
import CitationNotes.Proofs.Condition.Marks
import CitationNotes.Proofs.Condition.Levels
import CitationNotes.Proofs.Condition.Absent
import CitationNotes.Proofs.Condition.Balance
import CitationNotes.Proofs.Template.Carry
import CitationNotes.Proofs.Runs.Holes
import CitationNotes.Proofs.Template.Skeleton
import CitationNotes.Proofs.Document.Links
import CitationNotes.Proofs.Footnote.Reach
import CitationNotes.Proofs.Document.RoundTrip
import CitationNotes.Proofs.Document.Shown
import CitationNotes.Proofs.Footnote.Attempts
import CitationNotes.Proofs.Document.Outcome
import CitationNotes.Proofs.Condition.Innermost
import CitationNotes.Proofs.Condition.Ruins
import CitationNotes.Proofs.Footnote.Interchange
import CitationNotes.Proofs.Condition.Rivals
import CitationNotes.Proofs.Template.FieldOrder
import CitationNotes.Proofs.Template.Residue
import CitationNotes.Proofs.Footnote.Slots
import CitationNotes.Proofs.Runs.Canonical
import CitationNotes.Proofs.Library.Redraft
import CitationNotes.Proofs.Library.Records
import CitationNotes.Proofs.Library.Reload
import CitationNotes.Proofs.Condition.Partners
import CitationNotes.Proofs.Footnote.Recut
import CitationNotes.Proofs.Template.Mixing
import CitationNotes.Proofs.Template.Prefixes
import CitationNotes.Proofs.Bibliography.Alphabet
import CitationNotes.Proofs.Bibliography.Arrangement
import CitationNotes.Proofs.Bibliography.LetterCase
import CitationNotes.Proofs.Footnote.Answers
import CitationNotes.Proofs.Library.Form
import CitationNotes.Proofs.Condition.Monotone
import CitationNotes.Proofs.Runs.Replacement
import CitationNotes.Proofs.Runs.Conservation
import CitationNotes.Proofs.Command.Storage
import CitationNotes.Proofs.Command.Effects
import CitationNotes.Proofs.Text.Slices
import CitationNotes.Proofs.Runs.Split
import CitationNotes.Proofs.Template.Gaps
import CitationNotes.Proofs.Template.Cursor
import CitationNotes.Proofs.Condition.LongestFirst
import CitationNotes.Proofs.Condition.Atoms
