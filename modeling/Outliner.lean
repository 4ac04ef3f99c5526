import Outliner.Browser.Choice
import Outliner.Browser.Session
import Outliner.Command.Arguments
import Outliner.Command.Run
import Outliner.Display.Highlight
import Outliner.Display.Label
import Outliner.Display.Panel
import Outliner.Display.Tree
import Outliner.Display.Wrap
import Outliner.Files.Entry
import Outliner.Files.Notice
import Outliner.Files.Path
import Outliner.Files.Scan
import Outliner.Json.Decode
import Outliner.Json.Fault
import Outliner.Json.Outline
import Outliner.Json.Value
import Outliner.Main
import Outliner.Markup.Literal
import Outliner.Markup.Render
import Outliner.Markup.Spanned
import Outliner.Markup.Style
import Outliner.Markup.Token
import Outliner.Number.Binary64
import Outliner.Number.Shortest
import Outliner.Outline.Expansion
import Outliner.Outline.Kind
import Outliner.Outline.Node
import Outliner.Outline.Row
import Outliner.Outline.Tally
import Outliner.Proofs.Fallible
import Outliner.Proofs.Json.Entry
import Outliner.Proofs.Json.Writable
import Outliner.Proofs.Json.Mirror
import Outliner.Proofs.Json.Walk
import Outliner.Proofs.Outline.Forest
import Outliner.Proofs.Script.Composition
import Outliner.Proofs.Script.Declarations
import Outliner.Proofs.Script.Listing
import Outliner.Proofs.Script.Ownership
import Outliner.Proofs.Script.Projection
import Outliner.Script.Braces
import Outliner.Script.Extract
import Outliner.Script.Keyword
import Outliner.Script.ParamBlock
import Outliner.Script.Parameter
import Outliner.Script.Signature
import Outliner.Settings.Merge
import Outliner.Settings.Setting
import Outliner.Settings.Store
import Outliner.Text.Basic
import Outliner.Text.Cell
import Outliner.Text.Cluster
import Outliner.Text.Letter
import Outliner.Text.Line
import Outliner.Text.LowerCase
import Outliner.Text.Numeral
import Outliner.Text.Pattern
import Outliner.Text.Printable
import Outliner.Text.Quoted
import Outliner.Text.Utf8
import Outliner.Toml.Assignment
import Outliner.Toml.Document
import Outliner.Toml.Element
import Outliner.Toml.Header
import Outliner.Toml.Layout
import Outliner.Toml.Literal
import Outliner.Toml.Moment
import Outliner.Toml.Piece
import Outliner.Toml.Render
import Outliner.Toml.Timestamp
import Outliner.Toml.Value
import Outliner.Proofs.Outline.WellFormed
import Outliner.Proofs.Script.Formation
import Outliner.Proofs.Json.Formation
import Outliner.Proofs.Files.Formation
import Outliner.Proofs.Files.Coverage
import Outliner.Proofs.Text.Order
import Outliner.Proofs.Files.Placement
import Outliner.Proofs.Files.Directory
import Outliner.Proofs.Display.Folding
import Outliner.Proofs.Display.Growth
import Outliner.Proofs.Text.Encoding
import Outliner.Proofs.Text.LowerCase
import Outliner.Proofs.Text.Strip
import Outliner.Proofs.Settings.Extensions
import Outliner.Proofs.Files.Write
import Outliner.Proofs.Settings.Merged
import Outliner.Proofs.Settings.History
import Outliner.Proofs.Toml.Equality
import Outliner.Proofs.Outline.Flags
import Outliner.Proofs.Text.Digits
import Outliner.Proofs.Browser.Turns
import Outliner.Proofs.Browser.Endings
import Outliner.Proofs.Outline.Labels
import Outliner.Proofs.Script.Transport
import Outliner.Proofs.Files.Labels
import Outliner.Proofs.Script.Indentation
import Outliner.Proofs.Json.Document
import Outliner.Proofs.Json.Spelling
import Outliner.Proofs.Json.Numerals
import Outliner.Proofs.Json.Rendering
import Outliner.Proofs.Text.LineEnd
import Outliner.Proofs.Files.Sources
import Outliner.Proofs.Text.Pieces
import Outliner.Proofs.Json.Skeleton
import Outliner.Proofs.Settings.Warnings
import Outliner.Proofs.Settings.Schema
import Outliner.Proofs.Text.Quoted
import Outliner.Proofs.Toml.Written
import Outliner.Proofs.Toml.Unquoted
import Outliner.Proofs.Toml.Lists
import Outliner.Proofs.Toml.Lines
import Outliner.Proofs.Toml.Passes
import Outliner.Proofs.Toml.RoundTrip
import Outliner.Proofs.Settings.Items
import Outliner.Proofs.Settings.Kept
import Outliner.Proofs.Script.Balance
import Outliner.Proofs.Script.Extent
import Outliner.Proofs.Script.Reach
import Outliner.Proofs.Text.Runs
import Outliner.Proofs.Script.Grammar
import Outliner.Proofs.Script.Attributes
import Outliner.Proofs.Script.ParameterList
import Outliner.Proofs.Script.DeclarationForms
import Outliner.Proofs.Script.BlockLayout
import Outliner.Proofs.Script.OneLine
import Outliner.Proofs.Script.Variables
import Outliner.Proofs.Outline.Addresses
import Outliner.Proofs.Outline.Toggle
import Outliner.Proofs.Browser.Selection
import Outliner.Proofs.Json.Grammar
import Outliner.Proofs.Json.Truncation
import Outliner.Proofs.Settings.SetOutcome
import Outliner.Proofs.Script.Parentheses
import Outliner.Proofs.Outline.Tally
import Outliner.Proofs.Markup.Tokens
import Outliner.Proofs.Command.Counts
import Outliner.Proofs.Markup.Escape
import Outliner.Proofs.Markup.Shown
import Outliner.Proofs.Display.NodeLabels
import Outliner.Proofs.Display.Styles
import Outliner.Proofs.Command.ExitCode
import Outliner.Proofs.Toml.Keys
import Outliner.Proofs.Toml.Writable
import Outliner.Proofs.Settings.NormalForms
import Outliner.Proofs.Settings.StoredExtensions
