import Stencil.Arguments.Grammar
import Stencil.Arguments.Reading
import Stencil.Calendar
import Stencil.Decimal.Binary64
import Stencil.Decimal.Numeral
import Stencil.Decimal.Shortest
import Stencil.Directive.Passes
import Stencil.Directive.Resolution
import Stencil.Files.Path
import Stencil.Files.Tree
import Stencil.Json.Reader
import Stencil.Loading.Config
import Stencil.Loading.Customizations
import Stencil.Loading.Variables
import Stencil.Main
import Stencil.Markup.Evaluation
import Stencil.Markup.Marker
import Stencil.Markup.Tag
import Stencil.Markup.Tree
import Stencil.NameMap
import Stencil.Program.Command
import Stencil.Program.Listing
import Stencil.Program.Run
import Stencil.Proofs.Directive.Alternating
import Stencil.Proofs.Directive.Budget
import Stencil.Proofs.Directive.Congruence
import Stencil.Proofs.Directive.Descent
import Stencil.Proofs.Directive.Effects
import Stencil.Proofs.Directive.Entering
import Stencil.Proofs.Directive.Faults
import Stencil.Proofs.Directive.Framing
import Stencil.Proofs.Directive.Holding
import Stencil.Proofs.Directive.Meaning
import Stencil.Proofs.Directive.OnTrees
import Stencil.Proofs.Directive.Regrowth
import Stencil.Proofs.Directive.Resuming
import Stencil.Proofs.Directive.Settling
import Stencil.Proofs.Directive.Sharing
import Stencil.Proofs.Directive.Slicing
import Stencil.Proofs.Directive.Spacing
import Stencil.Proofs.Directive.Steps
import Stencil.Proofs.Directive.StrayMarkers
import Stencil.Proofs.Directive.Sweeping
import Stencil.Proofs.Directive.TwoRuns
import Stencil.Proofs.Directive.Unrolling
import Stencil.Proofs.Json.Documents
import Stencil.Proofs.Json.Tokens
import Stencil.Proofs.Loading.Accepting
import Stencil.Proofs.Loading.FrontMatter
import Stencil.Proofs.Loading.Sources
import Stencil.Proofs.Loading.Stops
import Stencil.Proofs.Loading.Structured
import Stencil.Proofs.Markup.Balance
import Stencil.Proofs.Markup.Closed
import Stencil.Proofs.Markup.Cut
import Stencil.Proofs.Markup.Locality
import Stencil.Proofs.Markup.Loose
import Stencil.Proofs.Markup.Matching
import Stencil.Proofs.Markup.Opaque
import Stencil.Proofs.Markup.Reading
import Stencil.Proofs.Markup.Rewriting
import Stencil.Proofs.Markup.Shape
import Stencil.Proofs.Markup.Site
import Stencil.Proofs.Markup.Walking
import Stencil.Proofs.Markup.Written
import Stencil.Proofs.Program.Escapes
import Stencil.Proofs.Program.Listing
import Stencil.Proofs.Program.Preparing
import Stencil.Proofs.Program.Rendering
import Stencil.Proofs.Results
import Stencil.Proofs.Slots.Channel
import Stencil.Proofs.Slots.Renumbering
import Stencil.Proofs.Slots.Tokens
import Stencil.Proofs.Slots.Weaving
import Stencil.Proofs.Template.ApiDocument
import Stencil.Proofs.Template.Builtins
import Stencil.Proofs.Template.Covering
import Stencil.Proofs.Template.Drafts
import Stencil.Proofs.Template.Elements
import Stencil.Proofs.Template.Evaluation
import Stencil.Proofs.Template.Fallback
import Stencil.Proofs.Template.Filling
import Stencil.Proofs.Template.Guards
import Stencil.Proofs.Template.Histories
import Stencil.Proofs.Template.LoopTexts
import Stencil.Proofs.Template.Outcomes
import Stencil.Proofs.Template.Substituting
import Stencil.Proofs.Template.Untaken
import Stencil.Proofs.Template.Verbatim
import Stencil.Proofs.Terminal.Unstyled
import Stencil.Proofs.Text.Blanks
import Stencil.Proofs.Text.Lines
import Stencil.Proofs.Text.Local
import Stencil.Proofs.Text.Pieces
import Stencil.Proofs.Text.Utf8
import Stencil.Proofs.Value.Fields
import Stencil.Proofs.Value.Parts
import Stencil.Proofs.Value.Shape
import Stencil.Proofs.Value.Structured
import Stencil.Scope
import Stencil.Slots
import Stencil.Substitution
import Stencil.Template.Basic
import Stencil.Template.Builtin
import Stencil.Template.Engine
import Stencil.Template.Error
import Stencil.Template.History
import Stencil.Template.Notice
import Stencil.Template.Registry
import Stencil.Template.Validation
import Stencil.Terminal.Action.Grammar
import Stencil.Terminal.Action.Literal
import Stencil.Terminal.Action.Misuse
import Stencil.Terminal.Action.Pattern
import Stencil.Terminal.Action.Quoted
import Stencil.Terminal.Action.Reading
import Stencil.Terminal.Action.Token
import Stencil.Terminal.Action.Tree
import Stencil.Terminal.Colour
import Stencil.Terminal.Emoji
import Stencil.Terminal.Help
import Stencil.Terminal.Mode
import Stencil.Terminal.Style
import Stencil.Terminal.Styled
import Stencil.Terminal.Table
import Stencil.Terminal.Widths
import Stencil.Terminal.Wrap
import Stencil.Text.Alphanumeric
import Stencil.Text.Basic
import Stencil.Text.Bytes
import Stencil.Text.CellWidth
import Stencil.Text.Digit
import Stencil.Text.Identifier
import Stencil.Text.Lower
import Stencil.Text.Quoted
import Stencil.Text.Scan
import Stencil.Toml.Document
import Stencil.Toml.Scalar
import Stencil.Value.Basic
import Stencil.Value.Printed
import Stencil.Value.Structured
import Stencil.Yaml.Cursor
import Stencil.Yaml.Document
import Stencil.Yaml.Merge
import Stencil.Yaml.Node
import Stencil.Yaml.Scalar
import Stencil.Yaml.ScalarText
import Stencil.Yaml.Tag
import Stencil.Yaml.Token
