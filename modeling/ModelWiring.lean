import ModelWiring.Assembly
import ModelWiring.Workspace.Command
import ModelWiring.Proofs.Action
import ModelWiring.Proofs.Assembly.Offer
import ModelWiring.Proofs.Assembly.Entry
import ModelWiring.Proofs.Assembly.Run
import ModelWiring.Proofs.Assembly.FirstEligible
import ModelWiring.Proofs.Assembly.Made
import ModelWiring.Proofs.Assembly.Failure
import ModelWiring.Proofs.Assembly.MissingSetting
import ModelWiring.Proofs.Registry.History
import ModelWiring.Proofs.Registry.Closing
import ModelWiring.Proofs.Registry.LifeCycle
import ModelWiring.Proofs.Value.Freezing
import ModelWiring.Proofs.Options.Building
import ModelWiring.Proofs.Options.Overlay
import ModelWiring.Proofs.Options.Layers
import ModelWiring.Proofs.Workspace.Session
import ModelWiring.Proofs.Workspace.Snapshot
import ModelWiring.Proofs.Workspace.Frozen
import ModelWiring.Proofs.Workspace.Building
import ModelWiring.Proofs.Workspace.Merging
import ModelWiring.Proofs.Value.References
import ModelWiring.Proofs.Options.References
import ModelWiring.Proofs.Workspace.Store
import ModelWiring.Proofs.Workspace.Evaluation
import ModelWiring.Proofs.Workspace.Evolution
import ModelWiring.Proofs.Workspace.Isolation
import ModelWiring.Proofs.Value.Nesting
import ModelWiring.Proofs.Options.Wire
import ModelWiring.Proofs.Options.RoundTrip
import ModelWiring.Proofs.Double.Decimal
import ModelWiring.Proofs.Address.Domain
import ModelWiring.Proofs.Address.Host
import ModelWiring.Proofs.Address.Reading
import ModelWiring.Proofs.Address.Joining
import ModelWiring.Proofs.Client.Sending
import ModelWiring.Proofs.Client.Place
import ModelWiring.Proofs.Double.Rounding
import ModelWiring.Proofs.Double.Written
import ModelWiring.Proofs.Json.Text
import ModelWiring.Proofs.Json.Number
import ModelWiring.Proofs.Json.RoundTrip
import ModelWiring.Proofs.Options.Sent
import ModelWiring.Proofs.Model.Call
import ModelWiring.Proofs.Agreement
import ModelWiring.Proofs.Assembly.Twins
import ModelWiring.Proofs.Assembly.Composition
import ModelWiring.Proofs.Failing
import ModelWiring.Proofs.Offline
import ModelWiring.Proofs.Client.Exchange
import ModelWiring.Proofs.Model.Conversation
import ModelWiring.Proofs.Options.Block
import ModelWiring.Proofs.Options.Defaults
import ModelWiring.Proofs.Settings.Block
import ModelWiring.Proofs.Options.Further
import ModelWiring.Proofs.Json.Writing
import ModelWiring.Proofs.Settings.Encoding
import ModelWiring.Proofs.Assembly.Encodable
import ModelWiring.Proofs.Value.Order
import ModelWiring.Proofs.Options.Order
import ModelWiring.Proofs.Settings.Order
import ModelWiring.Proofs.Assembly.Order
import ModelWiring.Proofs.Value.Table
import ModelWiring.Proofs.Options.Routing
import ModelWiring.Proofs.Options.Configured
import ModelWiring.Proofs.Settings.Token
import ModelWiring.Proofs.Settings.Variables
import ModelWiring.Proofs.Assembly.Supplied
import ModelWiring.Proofs.Options.Hashing
import ModelWiring.Proofs.Workspace.Accumulating
import ModelWiring.Proofs.Address.Segments
import ModelWiring.Proofs.Address.Site
import ModelWiring.Proofs.Client.Appended
import ModelWiring.Proofs.Text.Trimming
import ModelWiring.Proofs.Text.LowerCase
import ModelWiring.Proofs.Settings.Nested
import ModelWiring.Proofs.Settings.Selector
import ModelWiring.Proofs.Double.Range
import ModelWiring.Proofs.Settings.TimeLimit
import ModelWiring.Proofs.Settings.Rereading
import ModelWiring.Proofs.Model.Answer
import ModelWiring.Proofs.Text.CommaItems
import ModelWiring.Proofs.Options.Plain
