import ReactiveForm.StringMap
import ReactiveForm.Text.Blank
import ReactiveForm.Text.Section
import ReactiveForm.Text.Split
import ReactiveForm.Text.Lowercase
import ReactiveForm.Text.Letter
import ReactiveForm.Text.Printable
import ReactiveForm.Condition.Parser
import ReactiveForm.Condition.Evaluation
import ReactiveForm.Directive.Parser
import ReactiveForm.Document.Snapshot
import ReactiveForm.Document.Html
import ReactiveForm.Decimal.Shortest
import ReactiveForm.Json.Basic
import ReactiveForm.Json5.Decode
import ReactiveForm.Fixture.Text
import ReactiveForm.Config.Text
import ReactiveForm.Config.Set
import ReactiveForm.Binding.Page
import ReactiveForm.Binding.Step
import ReactiveForm.FileTree.Basic
import ReactiveForm.CommandLine.Run
import ReactiveForm.Main
import ReactiveForm.Proofs.Condition.ReadingBack
import ReactiveForm.Proofs.Binding.Order
import ReactiveForm.Proofs.Binding.Synchrony
import ReactiveForm.Proofs.Binding.Coverage
import ReactiveForm.Proofs.Binding.Noninterference
import ReactiveForm.Proofs.Binding.Initialization
import ReactiveForm.Proofs.Binding.Exclusivity
import ReactiveForm.Proofs.Condition.Precedence
import ReactiveForm.Proofs.Condition.Truth
import ReactiveForm.Proofs.Directive.Embedding
import ReactiveForm.Proofs.Document.Election
import ReactiveForm.Proofs.Document.Markup
import ReactiveForm.Proofs.Fixture.Building
import ReactiveForm.Proofs.Fixture.Legibility
import ReactiveForm.Proofs.Fixture.ReadingBack
import ReactiveForm.Proofs.Json.Spelling
import ReactiveForm.Proofs.Json5.Quotation
import ReactiveForm.Proofs.Json5.Tokens
import ReactiveForm.Proofs.Json5.Decoding
import ReactiveForm.Proofs.Json5.Layout
import ReactiveForm.Proofs.Json5.Values
import ReactiveForm.Proofs.CommandLine.Saving
import ReactiveForm.Proofs.Document.Traversal
import ReactiveForm.Proofs.Document.Showing
import ReactiveForm.Proofs.Binding.Refusal
import ReactiveForm.Proofs.CommandLine.Answering
import ReactiveForm.Proofs.Condition.Grouping
import ReactiveForm.Proofs.Condition.Normalization
import ReactiveForm.Proofs.Directive.Rendering
import ReactiveForm.Proofs.Binding.Remembrance
import ReactiveForm.Proofs.Binding.Coherence
import ReactiveForm.Proofs.Binding.ReadingBack
import ReactiveForm.Proofs.Binding.Toggling
import ReactiveForm.Proofs.Fixture.Numbering
import ReactiveForm.Proofs.Condition.Suggestion
import ReactiveForm.Proofs.Condition.Pointing
import ReactiveForm.Proofs.CommandLine.Caret
import ReactiveForm.Proofs.Binding.Spelling
import ReactiveForm.Proofs.Text.Parts
import ReactiveForm.Proofs.Directive.Values
