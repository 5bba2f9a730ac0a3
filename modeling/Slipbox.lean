import Slipbox.CommandLine
import Slipbox.Config
import Slipbox.Contents
import Slipbox.Disk.Path
import Slipbox.Disk.Tree
import Slipbox.Expansion
import Slipbox.Html
import Slipbox.Main
import Slipbox.Markup.Document
import Slipbox.Markup.Inline
import Slipbox.Markup.Lexeme
import Slipbox.Markup.Node
import Slipbox.Markup.Recipe
import Slipbox.Markup.Rule
import Slipbox.Markup.Spelling
import Slipbox.Note.Basic
import Slipbox.Note.File
import Slipbox.Outline
import Slipbox.Parsing.Basic
import Slipbox.Parsing.Combinator
import Slipbox.Parsing.Recogniser
import Slipbox.Parsing.Sequencer
import Slipbox.Search
import Slipbox.Store
import Slipbox.Text.Alphanumeric
import Slipbox.Text.Basic
import Slipbox.Text.Blank
import Slipbox.Text.BreakClass
import Slipbox.Text.Casing
import Slipbox.Text.Cells
import Slipbox.Text.Emoji
import Slipbox.Text.Grapheme
import Slipbox.Text.Ligature
import Slipbox.Text.Position
import Slipbox.Text.Printable
import Slipbox.Text.Quoted
import Slipbox.Text.Ranges
import Slipbox.Text.Width
import Slipbox.Toml.Document
import Slipbox.Toml.Quoting
import Slipbox.Toml.Scalar
import Slipbox.Toml.Value
import Slipbox.Viewer.Cell
import Slipbox.Viewer.Lines
import Slipbox.Viewer.Screen
import Slipbox.Viewer.Session
import Slipbox.Viewer.Style
import Slipbox.Viewer.Wrapping
import Slipbox.Proofs.Text
import Slipbox.Proofs.Parsing.Outcome
import Slipbox.Proofs.Parsing.Composition
import Slipbox.Proofs.Parsing.Repetition
import Slipbox.Proofs.Parsing.Suffix
import Slipbox.Proofs.Markup.Lexemes
import Slipbox.Proofs.Markup.Labels
import Slipbox.Proofs.Markup.Spans
import Slipbox.Proofs.Markup.Respelling
import Slipbox.Proofs.Markup.Spellings
import Slipbox.Proofs.Markup.Totality
import Slipbox.Proofs.Markup.Openings
import Slipbox.Proofs.Markup.Canonical
import Slipbox.Proofs.Markup.Backticks
import Slipbox.Proofs.Markup.Reparsing
import Slipbox.Proofs.Markup.Locality
import Slipbox.Proofs.Markup.Shape
import Slipbox.Proofs.Markup.Resumption
import Slipbox.Proofs.Markup.LineStarts
import Slipbox.Proofs.Markup.Expressions
import Slipbox.Proofs.Markup.TagLine
import Slipbox.Proofs.Parsing.Walking
import Slipbox.Proofs.Parsing.Maximality
import Slipbox.Proofs.Outline
import Slipbox.Proofs.Contents
import Slipbox.Proofs.Search
import Slipbox.Proofs.Viewer.Session
import Slipbox.Proofs.Html
import Slipbox.Proofs.Anchors
import Slipbox.Proofs.Viewer.Lines
import Slipbox.Proofs.Disk.Path
import Slipbox.Proofs.Disk.Tree
import Slipbox.Proofs.Disk.Files
import Slipbox.Proofs.Store.Writing
import Slipbox.Proofs.Store.Creation
import Slipbox.Proofs.Viewer.Creation
import Slipbox.Proofs.Store.Scanning
import Slipbox.Proofs.Store.NewNotes
import Slipbox.Proofs.Markup.Flattening
import Slipbox.Proofs.Markup.Reformatting
import Slipbox.Proofs.Markup.Order
import Slipbox.Proofs.Toml.Quoting
import Slipbox.Proofs.Toml.Assignments
import Slipbox.Proofs.Config
import Slipbox.Proofs.Viewer.NewTag
import Slipbox.Proofs.Viewer.Outcomes
import Slipbox.Proofs.Viewer.Navigation
import Slipbox.Proofs.Viewer.ContentsHeight
