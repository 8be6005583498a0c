import Marginalia.Callout.Conversion
import Marginalia.Callout.Marker
import Marginalia.Command.Argument
import Marginalia.Command.Failure
import Marginalia.Command.Form
import Marginalia.Command.Given
import Marginalia.Command.Help
import Marginalia.Command.Host
import Marginalia.Command.Misuse
import Marginalia.Command.Request
import Marginalia.Command.Run
import Marginalia.Command.Workspace
import Marginalia.Decimal.Positional
import Marginalia.Decimal.Shortest
import Marginalia.Document
import Marginalia.Json.Draft
import Marginalia.Json.Fault
import Marginalia.Json.Number
import Marginalia.Json.Value
import Marginalia.Main
import Marginalia.Markdown.BareLink
import Marginalia.Markdown.CodeSpan
import Marginalia.Markdown.Cursor
import Marginalia.Markdown.Definition
import Marginalia.Markdown.Emphasis
import Marginalia.Markdown.Entity
import Marginalia.Markdown.EntityNames
import Marginalia.Markdown.LineStart
import Marginalia.Markdown.Node
import Marginalia.Markdown.Outline
import Marginalia.Markdown.Outliner
import Marginalia.Markdown.Reader
import Marginalia.Markdown.Running
import Marginalia.Markdown.Scanner
import Marginalia.Markdown.Tag
import Marginalia.Markdown.ToTree
import Marginalia.Markup.OfTree
import Marginalia.Markup.Piece
import Marginalia.OrderedMap
import Marginalia.Pipeline.Basic
import Marginalia.Pipeline.Transforms
import Marginalia.Proofs.Callout.ClassAttribute
import Marginalia.Proofs.Callout.Correspondence
import Marginalia.Proofs.Callout.FirstPass
import Marginalia.Proofs.Callout.Frame
import Marginalia.Proofs.Callout.MarkerGrammar
import Marginalia.Proofs.Callout.Splice
import Marginalia.Proofs.Callout.Structure
import Marginalia.Proofs.Callout.Traversal
import Marginalia.Proofs.Callout.Written
import Marginalia.Proofs.Command.Agreement
import Marginalia.Proofs.Command.EffectiveSettings
import Marginalia.Proofs.Command.Sinks
import Marginalia.Proofs.Command.Stages
import Marginalia.Proofs.Command.Unseen
import Marginalia.Proofs.Json.Extent
import Marginalia.Proofs.Json.Layout
import Marginalia.Proofs.Json.Leaf
import Marginalia.Proofs.Json.Reading
import Marginalia.Proofs.Json.Sorted
import Marginalia.Proofs.Json.Spelling
import Marginalia.Proofs.Markdown.AlternativeText
import Marginalia.Proofs.Markdown.CodeText
import Marginalia.Proofs.Markdown.Context
import Marginalia.Proofs.Markdown.NormalForm
import Marginalia.Proofs.Markdown.Pruning
import Marginalia.Proofs.Markdown.Recut
import Marginalia.Proofs.Markdown.Safe
import Marginalia.Proofs.Markup.Attributes
import Marginalia.Proofs.Markup.Balance
import Marginalia.Proofs.Markup.BlockTags
import Marginalia.Proofs.Markup.Faithful
import Marginalia.Proofs.Markup.ItemLayout
import Marginalia.Proofs.Markup.MergedAttributes
import Marginalia.Proofs.Markup.Prescription
import Marginalia.Proofs.Markup.PropertyOrder
import Marginalia.Proofs.Markup.RawHtml
import Marginalia.Proofs.Markup.Rendered
import Marginalia.Proofs.Pipeline.Execution
import Marginalia.Proofs.Settings.Keys
import Marginalia.Proofs.Tree.DataReadBack
import Marginalia.Proofs.Tree.MemberOrder
import Marginalia.Proofs.Tree.Members
import Marginalia.Proofs.Tree.ReadBack
import Marginalia.Proofs.Tree.Rearranged
import Marginalia.Proofs.Tree.RoundTrip
import Marginalia.Proofs.Yaml.Node
import Marginalia.Settings.Basic
import Marginalia.Settings.Error
import Marginalia.Settings.OfYaml
import Marginalia.Text.Blank
import Marginalia.Text.CaseFold
import Marginalia.Text.Category
import Marginalia.Text.ControlSequence
import Marginalia.Text.Quoted
import Marginalia.Text.Ranges
import Marginalia.Traced
import Marginalia.Tree.Basic
import Marginalia.Tree.Data
import Marginalia.Tree.Mismatch
import Marginalia.Tree.Read
import Marginalia.Tree.ToJson
import Marginalia.Tree.Walk
import Marginalia.Yaml.Event
import Marginalia.Yaml.Fault
import Marginalia.Yaml.Meaning
import Marginalia.Yaml.Place
import Marginalia.Yaml.Property
import Marginalia.Yaml.Scalar
import Marginalia.Yaml.Token
import Marginalia.Yaml.Tokens
