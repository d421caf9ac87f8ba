import Hypertext.Text.Utf8
import Hypertext.Json.Reader
import Hypertext.Attempt
import Hypertext.Sink.Basic
import Hypertext.Sink.Stream
import Hypertext.Sink.Pieces
import Hypertext.Sink.Emission
import Hypertext.Warning
import Hypertext.Escape
import Hypertext.Html.Element
import Hypertext.Resource.Location
import Hypertext.Context.Step
import Hypertext.Program.Run
import Hypertext.Proofs.Scope.Chain
import Hypertext.Proofs.Scope.Snapshots
import Hypertext.Proofs.Program.Isolation
import Hypertext.Proofs.Program.Regions
import Hypertext.Proofs.Markup.Reader
import Hypertext.Proofs.Markup.Emitted
import Hypertext.Proofs.Markup.Readback
import Hypertext.Proofs.Markup.Unescaping
import Hypertext.Proofs.Markup.AttributeText
import Hypertext.Proofs.Canvas.Failures
import Hypertext.Proofs.Canvas.Pending
import Hypertext.Proofs.Canvas.Nesting
import Hypertext.Proofs.Program.Skipping
import Hypertext.Proofs.Program.Coupling
import Hypertext.Proofs.Program.InPlace
import Hypertext.Proofs.Sink.Bounded
import Hypertext.Proofs.Program.Truncation
import Hypertext.Proofs.Program.Warnings
import Hypertext.Proofs.Program.Refusals
import Hypertext.Proofs.Sink.Offers
import Hypertext.Proofs.Markup.Runs
import Hypertext.Proofs.Bindings.Reports
import Hypertext.Proofs.Text.Spelling
import Hypertext.Proofs.Bindings.Accessors
import Hypertext.Proofs.Scope.Headers
import Hypertext.Proofs.Scope.Order
import Hypertext.Proofs.Bindings.Shapes
import Hypertext.Proofs.Scope.Persistence
import Hypertext.Proofs.Resource.Splitting
import Hypertext.Proofs.Resource.Snippet
import Hypertext.Proofs.Canvas.Handlerless
import Hypertext.Proofs.Program.Fragments
import Hypertext.Proofs.Warning.Periods
import Hypertext.Proofs.Warning.SharedText
import Hypertext.Proofs.Program.Obsolete
import Hypertext.Proofs.Program.Identifiers
