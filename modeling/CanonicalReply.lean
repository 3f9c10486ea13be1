import CanonicalReply.Assembly
import CanonicalReply.Assembly.Choice
import CanonicalReply.Assembly.Completion
import CanonicalReply.Assembly.Options
import CanonicalReply.Assembly.PerField
import CanonicalReply.Assembly.Replay
import CanonicalReply.Assembly.Update
import CanonicalReply.Binary64
import CanonicalReply.Binary64.Shortest
import CanonicalReply.CallArguments
import CanonicalReply.Dict
import CanonicalReply.Dict.Lemmas
import CanonicalReply.Failure
import CanonicalReply.FinishReason
import CanonicalReply.Json
import CanonicalReply.Json.Decoder
import CanonicalReply.Json.Fault
import CanonicalReply.Json.Reader
import CanonicalReply.Json.RecordReader
import CanonicalReply.Json.Skip
import CanonicalReply.Json.Writer
import CanonicalReply.Latency
import CanonicalReply.PackedCall
import CanonicalReply.Proofs.CanonicalForm
import CanonicalReply.Proofs.Expansion
import CanonicalReply.Proofs.Choices
import CanonicalReply.Proofs.Decoding
import CanonicalReply.Proofs.Outcome
import CanonicalReply.Proofs.Payloads
import CanonicalReply.Proofs.Repair
import CanonicalReply.Provider.Choice
import CanonicalReply.Provider.Error
import CanonicalReply.Provider.Payload
import CanonicalReply.Provider.ToolCall
import CanonicalReply.Reply.Chunk
import CanonicalReply.Reply.Completion
import CanonicalReply.Reply.Embedding
import CanonicalReply.Reply.Images
import CanonicalReply.Reply.Message
import CanonicalReply.Reply.Ranking
import CanonicalReply.Reply.SideChannel
import CanonicalReply.Reply.ToolCall
import CanonicalReply.Reply.Transcript
import CanonicalReply.Reply.Usage
import CanonicalReply.ResponseHeaders
import CanonicalReply.Settings
import CanonicalReply.Settings.Fault
import CanonicalReply.Settings.Load
import CanonicalReply.Settings.Placeholder
import CanonicalReply.Settings.Reader
import CanonicalReply.Settings.Validation
import CanonicalReply.Settings.YamlReader
import CanonicalReply.Supply
import CanonicalReply.Text.Blank
import CanonicalReply.Text.Digits
import CanonicalReply.Text.Printable
import CanonicalReply.Text.Quoted
import CanonicalReply.Yaml.Cursor
import CanonicalReply.Yaml.Directive
import CanonicalReply.Yaml.Document
import CanonicalReply.Yaml.Event
import CanonicalReply.Yaml.Event.Parser
import CanonicalReply.Yaml.Problem
import CanonicalReply.Yaml.Property
import CanonicalReply.Yaml.Record
import CanonicalReply.Yaml.Scalar.Block
import CanonicalReply.Yaml.Scalar.Gap
import CanonicalReply.Yaml.Scalar.Plain
import CanonicalReply.Yaml.Scalar.Quoted
import CanonicalReply.Yaml.Token
import CanonicalReply.Yaml.Token.Lexer
import CanonicalReply.Yaml.Value
import CanonicalReply.Proofs.Assembling
import CanonicalReply.Proofs.Replay
import CanonicalReply.Proofs.Usage
import CanonicalReply.Proofs.Written
import CanonicalReply.Proofs.Renormalization
import CanonicalReply.Proofs.RoutedModel
import CanonicalReply.Proofs.Accumulation
import CanonicalReply.Proofs.Separation
import CanonicalReply.Proofs.DistinctKeys
import CanonicalReply.Proofs.ReadBack
import CanonicalReply.Proofs.Schema
import CanonicalReply.Proofs.RoundTrip
import CanonicalReply.Proofs.Coercion
import CanonicalReply.Proofs.JsonText
import CanonicalReply.Proofs.Overlay
import CanonicalReply.Proofs.RecordText
import CanonicalReply.Proofs.SavedSettings
import CanonicalReply.Proofs.Redelivery
import CanonicalReply.Proofs.CallIds
import CanonicalReply.Proofs.Packing
import CanonicalReply.Proofs.Placeholders
import CanonicalReply.Proofs.Substitution
import CanonicalReply.Proofs.ReportedErrors
import CanonicalReply.Proofs.ShownHeaders
import CanonicalReply.Proofs.UnsetVariables
import CanonicalReply.Proofs.Validation
import CanonicalReply.Proofs.Snapshots
import CanonicalReply.Proofs.Polling
import CanonicalReply.Proofs.SideChannels
import CanonicalReply.Proofs.StrippedIndices
