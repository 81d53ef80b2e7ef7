import MarkdownDirectives.Edit
import MarkdownDirectives.Main
import MarkdownDirectives.Proofs.Source.Line
import MarkdownDirectives.Proofs.Source.Printed
import MarkdownDirectives.Proofs.Source.Parts
import MarkdownDirectives.Proofs.Source.Kept
import MarkdownDirectives.Proofs.Source.Bracketed
import MarkdownDirectives.Proofs.Source.Written
import MarkdownDirectives.Proofs.Source.Fences
import MarkdownDirectives.Proofs.Source.Quoted
import MarkdownDirectives.Proofs.Source.Items
import MarkdownDirectives.Proofs.Source.Segments
import MarkdownDirectives.Proofs.Source.Unclosed
import MarkdownDirectives.Proofs.Reader.Marks
import MarkdownDirectives.Proofs.Reader.Fits
import MarkdownDirectives.Proofs.Reader.WellFormed
import MarkdownDirectives.Proofs.Reader.Built
import MarkdownDirectives.Proofs.Reader.TopBlocks
import MarkdownDirectives.Proofs.Reader.Labels
import MarkdownDirectives.Proofs.Reader.Texts
import MarkdownDirectives.Proofs.Layers.Merging
import MarkdownDirectives.Proofs.Layers.Grouping
import MarkdownDirectives.Proofs.Layers.Reference
import MarkdownDirectives.Proofs.Layers.ClassWords
import MarkdownDirectives.Proofs.Layers.Values
import MarkdownDirectives.Proofs.Text.Replacement
import MarkdownDirectives.Proofs.Text.ByteOrder
import MarkdownDirectives.Proofs.Text.Offsets
import MarkdownDirectives.Proofs.Source.Passes
import MarkdownDirectives.Proofs.Source.Delimiters
import MarkdownDirectives.Proofs.Family.Names
import MarkdownDirectives.Proofs.Family.Settings
import MarkdownDirectives.Proofs.Family.LinkIds
import MarkdownDirectives.Proofs.Family.Expressions
import MarkdownDirectives.Proofs.Family.Links
import MarkdownDirectives.Proofs.Family.Pages
import MarkdownDirectives.Proofs.Family.Badges
import MarkdownDirectives.Proofs.Family.Videos
import MarkdownDirectives.Proofs.Config.Written
import MarkdownDirectives.Proofs.Config.ReadBack
import MarkdownDirectives.Proofs.Walk.Resolve
import MarkdownDirectives.Proofs.Walk.Rules
import MarkdownDirectives.Proofs.Walk.Everywhere
import MarkdownDirectives.Proofs.Walk.Complete
import MarkdownDirectives.Proofs.Walk.Position
import MarkdownDirectives.Proofs.Walk.Stopped
import MarkdownDirectives.Proofs.Walk.Overwrite
import MarkdownDirectives.Proofs.Walk.Frame
import MarkdownDirectives.Proofs.Walk.Images
import MarkdownDirectives.Proofs.Walk.Again
import MarkdownDirectives.Proofs.Walk.Keys
import MarkdownDirectives.Proofs.Walk.Distinct
import MarkdownDirectives.Proofs.Images.Children
import MarkdownDirectives.Proofs.Images.Content
import MarkdownDirectives.Proofs.Images.Visits
import MarkdownDirectives.Proofs.Images.Choices
import MarkdownDirectives.Proofs.Walk.Spelling
import MarkdownDirectives.Proofs.Markup.Generic
import MarkdownDirectives.Proofs.Html.Rendered
import MarkdownDirectives.Proofs.Html.Tokens
import MarkdownDirectives.Proofs.Html.Names
import MarkdownDirectives.Proofs.Html.Tags
import MarkdownDirectives.Proofs.Html.Entities
import MarkdownDirectives.Proofs.Html.Lexemes
import MarkdownDirectives.Proofs.Html.ReadBack
import MarkdownDirectives.Proofs.Files.Writing
import MarkdownDirectives.Proofs.Files.Parents
import MarkdownDirectives.Proofs.Config.Discovery
import MarkdownDirectives.Proofs.Json.Lossless
import MarkdownDirectives.Proofs.Command.AllOrNothing
