import Storyboard.Action.Basic
import Storyboard.Action.Intake
import Storyboard.Action.Nesting
import Storyboard.Action.Reader
import Storyboard.Action.Writer
import Storyboard.App.Basic
import Storyboard.App.Chain
import Storyboard.App.Context
import Storyboard.App.Dispatch
import Storyboard.App.Effect
import Storyboard.App.Facade
import Storyboard.App.Inline
import Storyboard.App.Network
import Storyboard.App.Performer
import Storyboard.App.Remote
import Storyboard.App.Scheduled
import Storyboard.App.Tasks
import Storyboard.Assoc
import Storyboard.Charset.Basic
import Storyboard.Charset.Chart
import Storyboard.Charset.Chinese
import Storyboard.Charset.ChineseExtension
import Storyboard.Charset.ChineseRows
import Storyboard.Charset.Decoding
import Storyboard.Charset.Escaped
import Storyboard.Charset.Japanese
import Storyboard.Charset.JapaneseRows
import Storyboard.Charset.Korean
import Storyboard.Charset.KoreanRows
import Storyboard.Charset.Name
import Storyboard.Charset.Rows
import Storyboard.Charset.SevenBit
import Storyboard.Charset.Switched
import Storyboard.Charset.TraditionalRows
import Storyboard.Charset.Wide
import Storyboard.CommandLine
import Storyboard.Component.Binding
import Storyboard.Component.Rendering
import Storyboard.Compression.Envelope
import Storyboard.Compression.Huffman
import Storyboard.Compression.Inflate
import Storyboard.Compression.Source
import Storyboard.Credentials
import Storyboard.Digest
import Storyboard.Document.Basic
import Storyboard.Document.Reader
import Storyboard.Document.Reference
import Storyboard.Document.Validation
import Storyboard.Document.Writer
import Storyboard.Exchange
import Storyboard.Form
import Storyboard.HostName.Direction
import Storyboard.HostName.Joining
import Storyboard.HostName.Label
import Storyboard.HostName.Permitted
import Storyboard.HostName.Punycode
import Storyboard.Http.Address
import Storyboard.Http.Body
import Storyboard.Http.Header
import Storyboard.Http.MediaType
import Storyboard.Http.Percent
import Storyboard.Http.Request
import Storyboard.Http.Running
import Storyboard.Http.Submission
import Storyboard.Http.Url
import Storyboard.Json.Basic
import Storyboard.Json.Display
import Storyboard.Json.Elements
import Storyboard.Json.Reader
import Storyboard.Json.Writer
import Storyboard.Main
import Storyboard.Notice
import Storyboard.Number.Binary64
import Storyboard.Number.Numeral
import Storyboard.Number.Quantity
import Storyboard.Number.Shortest
import Storyboard.Proofs.Action.Branches
import Storyboard.Proofs.Action.Heights
import Storyboard.Proofs.Action.Intake
import Storyboard.Proofs.Action.Levels
import Storyboard.Proofs.Action.Restated
import Storyboard.Proofs.Action.Settled
import Storyboard.Proofs.App.Abreast
import Storyboard.Proofs.App.Completion
import Storyboard.Proofs.App.Course
import Storyboard.Proofs.App.CurrentScreen
import Storyboard.Proofs.App.DepthCap
import Storyboard.Proofs.App.DistinctIds
import Storyboard.Proofs.App.Exclusion
import Storyboard.Proofs.App.Footprint
import Storyboard.Proofs.App.History
import Storyboard.Proofs.App.InlineCompletion
import Storyboard.Proofs.App.InlineCourse
import Storyboard.Proofs.App.Legs
import Storyboard.Proofs.App.ListedRecord
import Storyboard.Proofs.App.Login
import Storyboard.Proofs.App.LoneDispatch
import Storyboard.Proofs.App.Loop
import Storyboard.Proofs.App.NewUser
import Storyboard.Proofs.App.Pending
import Storyboard.Proofs.App.PopupQueue
import Storyboard.Proofs.App.Progress
import Storyboard.Proofs.App.Protection
import Storyboard.Proofs.App.Refusals
import Storyboard.Proofs.App.Regime
import Storyboard.Proofs.App.Reload
import Storyboard.Proofs.App.Return
import Storyboard.Proofs.App.Sending
import Storyboard.Proofs.App.Sequel
import Storyboard.Proofs.App.Shallow
import Storyboard.Proofs.App.Signup
import Storyboard.Proofs.App.Step
import Storyboard.Proofs.App.Stepwise
import Storyboard.Proofs.App.Supported
import Storyboard.Proofs.App.TableSubmit
import Storyboard.Proofs.App.Threads
import Storyboard.Proofs.App.Trail
import Storyboard.Proofs.Assoc
import Storyboard.Proofs.CommandLine.ExitCodes
import Storyboard.Proofs.CommandLine.Inputs
import Storyboard.Proofs.CommandLine.Replays
import Storyboard.Proofs.Component.Binding
import Storyboard.Proofs.Component.ListItems
import Storyboard.Proofs.Credentials
import Storyboard.Proofs.Document.BreakingOff
import Storyboard.Proofs.Document.Canonical
import Storyboard.Proofs.Document.Kinds
import Storyboard.Proofs.Document.Levels
import Storyboard.Proofs.Document.Parts
import Storyboard.Proofs.Document.References
import Storyboard.Proofs.Document.Refusal
import Storyboard.Proofs.Document.Repair
import Storyboard.Proofs.Document.Report
import Storyboard.Proofs.Document.Restated
import Storyboard.Proofs.Document.Saving
import Storyboard.Proofs.Document.Serialization
import Storyboard.Proofs.Document.Settled
import Storyboard.Proofs.Document.Soundness
import Storyboard.Proofs.Document.Tidy
import Storyboard.Proofs.Document.TokenCheck
import Storyboard.Proofs.Document.Violations
import Storyboard.Proofs.Document.Walk
import Storyboard.Proofs.Http.Submission
import Storyboard.Proofs.Json.Digits
import Storyboard.Proofs.Json.Legible
import Storyboard.Proofs.Json.RoundTrip
import Storyboard.Proofs.Json.Scalars
import Storyboard.Proofs.Number.DecimalText
import Storyboard.Proofs.Number.Rounding
import Storyboard.Proofs.Records.Agreement
import Storyboard.Proofs.Records.Comparison
import Storyboard.Proofs.Records.Deletion
import Storyboard.Proofs.Records.Distinct
import Storyboard.Proofs.Records.Queries
import Storyboard.Proofs.Records.Restoring
import Storyboard.Proofs.Records.Seeding
import Storyboard.Proofs.Records.UnknownOperators
import Storyboard.Proofs.Records.Writes
import Storyboard.Proofs.Schema.Reading
import Storyboard.Proofs.Schema.Record
import Storyboard.Proofs.Stages
import Storyboard.Proofs.Template.Interpolation
import Storyboard.Proofs.Template.Placeholders
import Storyboard.Proofs.Template.SessionPaths
import Storyboard.Proofs.Template.Substitution
import Storyboard.Proofs.Template.SuppliedTokens
import Storyboard.Records.Filter
import Storyboard.Records.Order
import Storyboard.Records.Store
import Storyboard.Records.Supply
import Storyboard.Schema.Field
import Storyboard.Schema.Finding
import Storyboard.Schema.Issue
import Storyboard.Schema.Numeral
import Storyboard.Screen.AuthForms
import Storyboard.Screen.Resolution
import Storyboard.Session
import Storyboard.Settings
import Storyboard.Template.Bindings
import Storyboard.Template.Path
import Storyboard.Template.Placeholder
import Storyboard.Template.Resolve
import Storyboard.Template.Sharing
import Storyboard.Template.Token
import Storyboard.Text.Base64
import Storyboard.Text.Blank
import Storyboard.Text.Composition
import Storyboard.Text.LetterCase
import Storyboard.Text.Mark
import Storyboard.Text.Printable
import Storyboard.Text.Ranges
import Storyboard.Text.UpperCase
import Storyboard.Text.Utf8
import Storyboard.Text.WordChar
import Storyboard.Proofs.Exchange
