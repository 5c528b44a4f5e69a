import Colloquy.Chain.Basic
import Colloquy.Chain.Generation
import Colloquy.Chain.Run
import Colloquy.Chat.Arguments
import Colloquy.Chat.Basic
import Colloquy.Chat.InlineImage
import Colloquy.Chat.Message
import Colloquy.Config
import Colloquy.Decimal.Layout
import Colloquy.Decimal.Reader
import Colloquy.Decimal.Shortest
import Colloquy.Error.Basic
import Colloquy.Error.Document
import Colloquy.Error.Foreign
import Colloquy.Error.Graph
import Colloquy.Error.HostName
import Colloquy.Json.Compact
import Colloquy.Json.Reader
import Colloquy.Json.Strict
import Colloquy.Json.Writer
import Colloquy.Ledger
import Colloquy.Number
import Colloquy.Program.Basic
import Colloquy.Program.Build
import Colloquy.Program.Continuation
import Colloquy.Program.Outcome
import Colloquy.Program.Plan
import Colloquy.Program.Resume
import Colloquy.Program.Rounds
import Colloquy.Proofs.Chain.Cancellation
import Colloquy.Proofs.Chain.Conduct
import Colloquy.Proofs.Chain.Course
import Colloquy.Proofs.Chain.Ending
import Colloquy.Proofs.Chain.Exchange
import Colloquy.Proofs.Chain.Exclusive
import Colloquy.Proofs.Chain.Generation
import Colloquy.Proofs.Chain.Growth
import Colloquy.Proofs.Chain.Idle
import Colloquy.Proofs.Chain.Insertion
import Colloquy.Proofs.Chain.Linear
import Colloquy.Proofs.Chain.Refusal
import Colloquy.Proofs.Chain.Script
import Colloquy.Proofs.Chain.Sequencing
import Colloquy.Proofs.Chain.Step
import Colloquy.Proofs.Chain.Unresolved
import Colloquy.Proofs.Chain.Visit
import Colloquy.Proofs.Chat.Arguments
import Colloquy.Proofs.Chat.InlineImage
import Colloquy.Proofs.Config.Accepted
import Colloquy.Proofs.Decimal.Integer
import Colloquy.Proofs.Decimal.Packing
import Colloquy.Proofs.Decimal.Rounding
import Colloquy.Proofs.Decimal.Scientific
import Colloquy.Proofs.Decimal.Spelled
import Colloquy.Proofs.Error.Escape
import Colloquy.Proofs.Error.Raised
import Colloquy.Proofs.Error.Walk
import Colloquy.Proofs.Json.Expressible
import Colloquy.Proofs.Json.Front
import Colloquy.Proofs.Json.Number
import Colloquy.Proofs.Json.Read
import Colloquy.Proofs.Json.Room
import Colloquy.Proofs.Json.RoundTrip
import Colloquy.Proofs.Json.Sendable
import Colloquy.Proofs.Json.String
import Colloquy.Proofs.Json.Written
import Colloquy.Proofs.Ledger.Act
import Colloquy.Proofs.Ledger.Keeping
import Colloquy.Proofs.Program.Course
import Colloquy.Proofs.Program.Number
import Colloquy.Proofs.Program.Regular
import Colloquy.Proofs.Program.Sequencing
import Colloquy.Proofs.Provider.Alternation
import Colloquy.Proofs.Provider.Call
import Colloquy.Proofs.Provider.Canonical
import Colloquy.Proofs.Provider.Carry
import Colloquy.Proofs.Provider.Choice
import Colloquy.Proofs.Provider.Classification
import Colloquy.Proofs.Provider.Conversation
import Colloquy.Proofs.Provider.Credential
import Colloquy.Proofs.Provider.Delay
import Colloquy.Proofs.Provider.Endpoint
import Colloquy.Proofs.Provider.Escape
import Colloquy.Proofs.Provider.Identifier
import Colloquy.Proofs.Provider.Image
import Colloquy.Proofs.Provider.Metadata
import Colloquy.Proofs.Provider.Naming
import Colloquy.Proofs.Provider.Pairing
import Colloquy.Proofs.Provider.Picture
import Colloquy.Proofs.Provider.Raised
import Colloquy.Proofs.Provider.Reply
import Colloquy.Proofs.Provider.Resend
import Colloquy.Proofs.Provider.Unpictured
import Colloquy.Proofs.Retry.Budget
import Colloquy.Proofs.Retry.Course
import Colloquy.Proofs.Retry.Outcome
import Colloquy.Proofs.Retry.Overflow
import Colloquy.Proofs.Retry.Stop
import Colloquy.Proofs.Text.Pieces
import Colloquy.Proofs.Text.Search
import Colloquy.Proofs.Text.Utf8
import Colloquy.Proofs.Tool.Invocation
import Colloquy.Proofs.Tool.Registration
import Colloquy.Proofs.Turn.Account
import Colloquy.Proofs.Turn.Answer
import Colloquy.Proofs.Turn.Assembly
import Colloquy.Proofs.Turn.Bound
import Colloquy.Proofs.Turn.Break
import Colloquy.Proofs.Turn.Course
import Colloquy.Proofs.Turn.Cut
import Colloquy.Proofs.Turn.Ends
import Colloquy.Proofs.Turn.Failure
import Colloquy.Proofs.Turn.Limit
import Colloquy.Proofs.Turn.Lookout
import Colloquy.Proofs.Turn.Midway
import Colloquy.Proofs.Turn.Round
import Colloquy.Proofs.Turn.Stack
import Colloquy.Proofs.Turn.Watch
import Colloquy.Proofs.Url.Extended
import Colloquy.Proofs.Url.Host
import Colloquy.Proofs.Url.Name
import Colloquy.Proofs.Url.Parts
import Colloquy.Proofs.Url.Path
import Colloquy.Proofs.Url.Percent
import Colloquy.Proofs.Url.Reread
import Colloquy.Proofs.Value.Throughout
import Colloquy.Provider.Anthropic
import Colloquy.Provider.Basic
import Colloquy.Provider.Canonical
import Colloquy.Provider.Capability
import Colloquy.Provider.Endpoint
import Colloquy.Provider.Exchange
import Colloquy.Provider.Expect
import Colloquy.Provider.Failure
import Colloquy.Provider.Gemini
import Colloquy.Provider.Models
import Colloquy.Provider.Ollama
import Colloquy.Provider.OpenAI
import Colloquy.Retry.Basic
import Colloquy.Retry.Policy
import Colloquy.Schema.Basic
import Colloquy.Schema.Fit
import Colloquy.Schema.Model
import Colloquy.Session
import Colloquy.Text.Base64
import Colloquy.Text.Basic
import Colloquy.Text.Blank
import Colloquy.Text.Capital
import Colloquy.Text.Case
import Colloquy.Text.Composed
import Colloquy.Text.Composite
import Colloquy.Text.Digit
import Colloquy.Text.Direction
import Colloquy.Text.Encoding
import Colloquy.Text.Joining
import Colloquy.Text.Mark
import Colloquy.Text.Printable
import Colloquy.Text.Quoted
import Colloquy.Text.Ranges
import Colloquy.Text.Script
import Colloquy.Text.Utf8
import Colloquy.Tool.Basic
import Colloquy.Tool.Definition
import Colloquy.Tool.Inference
import Colloquy.Tool.Model
import Colloquy.Tool.Registry
import Colloquy.Transport.Client
import Colloquy.Transport.Coding
import Colloquy.Transport.Header
import Colloquy.Transport.Inflate
import Colloquy.Transport.PrefixCode
import Colloquy.Transport.Script
import Colloquy.Url.Address
import Colloquy.Url.Basic
import Colloquy.Url.Host
import Colloquy.Url.Label
import Colloquy.Url.Letter
import Colloquy.Url.Parse
import Colloquy.Url.Punycode
import Colloquy.Value
import Colloquy.Value.Access
import Colloquy.Value.Settings
import Colloquy.Wire.Basic
import Colloquy.Wire.Interruption
