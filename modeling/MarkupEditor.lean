import MarkupEditor.Command.Name
import MarkupEditor.Session
import MarkupEditor.Options.Reading
import MarkupEditor.Character.Alphanumeric
import MarkupEditor.Toml.Quotation
import MarkupEditor.Toml.Reader
import MarkupEditor.Toml.Writer
import MarkupEditor.CommandLine.Arguments
import MarkupEditor.CommandLine.Program
import MarkupEditor.Main
import MarkupEditor.Proofs.Markup.Blocks
import MarkupEditor.Proofs.Markup.Pieces
import MarkupEditor.Proofs.Markup.Rewriting
import MarkupEditor.Proofs.Markup.LineForms
import MarkupEditor.Proofs.Markup.LineRendering
import MarkupEditor.Proofs.Document.WellFormed
import MarkupEditor.Proofs.Text.Span
import MarkupEditor.Proofs.Text.Utf8
import MarkupEditor.Proofs.Document.Selection
import MarkupEditor.Proofs.Document.Formatting
import MarkupEditor.Proofs.Session.Selection
import MarkupEditor.Proofs.Session.Step
import MarkupEditor.Proofs.Host.Reading
import MarkupEditor.Proofs.CommandLine.Run
import MarkupEditor.Proofs.CommandLine.Warnings
import MarkupEditor.Proofs.Document.Edits
import MarkupEditor.Proofs.Document.CommandEdits
import MarkupEditor.Proofs.Session.Edits
import MarkupEditor.Proofs.Session.Mirror
import MarkupEditor.Proofs.Markup.Images
import MarkupEditor.Proofs.Markup.Retagging
import MarkupEditor.Proofs.Markup.Concatenation
import MarkupEditor.Proofs.Markup.Marks
import MarkupEditor.Proofs.Character.Lowercase
import MarkupEditor.Proofs.Command.Spelling
import MarkupEditor.Proofs.Command.Rendering
import MarkupEditor.Proofs.Document.InlineCommands
import MarkupEditor.Proofs.Session.BlockCommands
import MarkupEditor.Proofs.Session.History
import MarkupEditor.Proofs.Session.Versions
import MarkupEditor.Proofs.Session.LineInvariants
import MarkupEditor.Proofs.Session.Reopening
import MarkupEditor.Proofs.Markup.Tags
import MarkupEditor.Proofs.Markup.Nesting
import MarkupEditor.Proofs.Markup.Tearing
import MarkupEditor.Proofs.Markup.Flat
import MarkupEditor.Proofs.Session.Nesting
import MarkupEditor.Proofs.Markup.Neutral
import MarkupEditor.Proofs.FileTree.Writing
import MarkupEditor.Proofs.Path.Expansion
import MarkupEditor.Proofs.Config.Loading
import MarkupEditor.Proofs.CommandLine.InPlace
import MarkupEditor.Proofs.Config.Saving
import MarkupEditor.Proofs.Options.Validation
import MarkupEditor.Proofs.Document.Endpoints
import MarkupEditor.Proofs.Document.Commutation
import MarkupEditor.Proofs.Markup.Seam
import MarkupEditor.Proofs.Text.Places
import MarkupEditor.Proofs.Markup.Matching
import MarkupEditor.Proofs.Session.LineEndings
import MarkupEditor.Proofs.Session.LineBound
import MarkupEditor.Proofs.Session.Duplication
import MarkupEditor.Proofs.CommandLine.Effects
import MarkupEditor.Proofs.CommandLine.Interleaving
import MarkupEditor.Proofs.Position.Reading
import MarkupEditor.Proofs.Guarded.Access
import MarkupEditor.Proofs.Guarded.Formatting
import MarkupEditor.Proofs.Guarded.Rendering
import MarkupEditor.Proofs.Guarded.Session
