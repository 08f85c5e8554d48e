import JsxTemplate.Text.Basic
import JsxTemplate.Text.Blank
import JsxTemplate.Text.Cased
import JsxTemplate.Text.Digit
import JsxTemplate.Text.Identifier
import JsxTemplate.Text.Letter
import JsxTemplate.Text.Likeness
import JsxTemplate.Text.Numeral
import JsxTemplate.Text.Printable
import JsxTemplate.Text.Quoted
import JsxTemplate.Text.Utf8
import JsxTemplate.Text.Width
import JsxTemplate.Markup.Reference.Names
import JsxTemplate.Markup.Reference
import JsxTemplate.Markup.Event
import JsxTemplate.Markup.Tag
import JsxTemplate.Markup.Declaration
import JsxTemplate.Markup.Reader
import JsxTemplate.Table
import JsxTemplate.Template.Node
import JsxTemplate.Template.Nesting
import JsxTemplate.Binding.Part
import JsxTemplate.Jsx.Name
import JsxTemplate.Binding.Resolve
import JsxTemplate.Config
import JsxTemplate.Path
import JsxTemplate.Template.Control
import JsxTemplate.Jsx.Render
import JsxTemplate.Jsx.Module
import JsxTemplate.Files.Pattern
import JsxTemplate.Files.Store
import JsxTemplate.Failure
import JsxTemplate.Notice
import JsxTemplate.Template.Document
import JsxTemplate.Compile
import JsxTemplate.Project.Session
import JsxTemplate.Project.Build
import JsxTemplate.Project.Watch
import JsxTemplate.Console.Color
import JsxTemplate.Console.Emoji.Names
import JsxTemplate.Console.Emoji
import JsxTemplate.Console.Literal.Fault
import JsxTemplate.Console.Literal.Token
import JsxTemplate.Console.Literal.Quoted
import JsxTemplate.Console.Literal.Grammar
import JsxTemplate.Console.Literal.Lambda
import JsxTemplate.Console.Literal.Mistake
import JsxTemplate.Console.Literal
import JsxTemplate.Console.Sequence
import JsxTemplate.Console.Style
import JsxTemplate.Console.Styled
import JsxTemplate.Command.Usage
import JsxTemplate.Command.Arguments
import JsxTemplate.Command.Task
import JsxTemplate.Command.Run
import JsxTemplate.Main
import JsxTemplate.Proofs.Text
import JsxTemplate.Proofs.Spans
import JsxTemplate.Proofs.Walk
import JsxTemplate.Proofs.Table
import JsxTemplate.Proofs.Nesting
import JsxTemplate.Proofs.Printing
import JsxTemplate.Proofs.Reading
import JsxTemplate.Proofs.RoundTrip
import JsxTemplate.Proofs.Faults
import JsxTemplate.Proofs.Places
import JsxTemplate.Proofs.Outputs
import JsxTemplate.Proofs.Sessions
import JsxTemplate.Proofs.Compiling
import JsxTemplate.Proofs.Refreshing
import JsxTemplate.Proofs.Watching
import JsxTemplate.Proofs.Listing
import JsxTemplate.Proofs.Building
import JsxTemplate.Proofs.CatchUp
import JsxTemplate.Proofs.Words
import JsxTemplate.Proofs.Ampersands
import JsxTemplate.Proofs.Paragraphs
import JsxTemplate.Proofs.Expressions
import JsxTemplate.Proofs.Unreadable
import JsxTemplate.Proofs.Surviving
import JsxTemplate.Proofs.Growing
import JsxTemplate.Proofs.Repeating
import JsxTemplate.Proofs.Code
import JsxTemplate.Proofs.Imports
import JsxTemplate.Proofs.Heads
import JsxTemplate.Proofs.Selecting
import JsxTemplate.Proofs.Strict
import JsxTemplate.Proofs.Quoting
import JsxTemplate.Proofs.Unwrapping
import JsxTemplate.Proofs.Respelling
import JsxTemplate.Proofs.Batches
import JsxTemplate.Proofs.Mirroring
import JsxTemplate.Proofs.Naming
import JsxTemplate.Proofs.Normal
import JsxTemplate.Proofs.Lines
import JsxTemplate.Proofs.Shifting
