import SbomGate.Auth.Credential
import SbomGate.Auth.Error
import SbomGate.Auth.Verifier
import SbomGate.Base64Url
import SbomGate.Binary64.Basic
import SbomGate.Binary64.Rounding
import SbomGate.Binary64.Shortest
import SbomGate.CommandLine.Error
import SbomGate.CommandLine.Option
import SbomGate.CommandLine.Reader
import SbomGate.Config.Cache
import SbomGate.Config.Fault
import SbomGate.Config.Verifier
import SbomGate.Duration.Basic
import SbomGate.Duration.Label
import SbomGate.Duration.Spelled
import SbomGate.Gate.Refusal
import SbomGate.Gate.Router
import SbomGate.Http.Chunked
import SbomGate.Http.Message
import SbomGate.Http.Reply
import SbomGate.Intake.Sink
import SbomGate.Json.Fault
import SbomGate.Json.Node
import SbomGate.Json.Printer
import SbomGate.Json.Projection
import SbomGate.Json.Reader
import SbomGate.Json.Schema
import SbomGate.Json.Token
import SbomGate.Json.Value
import SbomGate.Keys.Cache
import SbomGate.Keys.Endpoint
import SbomGate.Keys.Fault
import SbomGate.Keys.KeySet
import SbomGate.Keys.Source
import SbomGate.Log.Filter
import SbomGate.Main
import SbomGate.Net.SocketAddress
import SbomGate.Proofs.Accounting
import SbomGate.Proofs.Admission
import SbomGate.Proofs.Breakage
import SbomGate.Proofs.CacheText
import SbomGate.Proofs.Canonical
import SbomGate.Proofs.ClaimChecks
import SbomGate.Proofs.Compact
import SbomGate.Proofs.Discretion
import SbomGate.Proofs.Embedding
import SbomGate.Proofs.Envelope
import SbomGate.Proofs.Expiry
import SbomGate.Proofs.Failures
import SbomGate.Proofs.FixedPoint
import SbomGate.Proofs.Freshness
import SbomGate.Proofs.Intake
import SbomGate.Proofs.Issuing
import SbomGate.Proofs.KeyChoice
import SbomGate.Proofs.Literal
import SbomGate.Proofs.Numeral
import SbomGate.Proofs.OptionalClaims
import SbomGate.Proofs.Outcome
import SbomGate.Proofs.Passes
import SbomGate.Proofs.Payload
import SbomGate.Proofs.PlainReading
import SbomGate.Proofs.Reading
import SbomGate.Proofs.Record
import SbomGate.Proofs.RecordText
import SbomGate.Proofs.Rereading
import SbomGate.Proofs.Rotation
import SbomGate.Proofs.Rounding
import SbomGate.Proofs.Rules
import SbomGate.Proofs.Scalars
import SbomGate.Proofs.Session
import SbomGate.Proofs.ShownNames
import SbomGate.Proofs.Signing
import SbomGate.Proofs.Spelling
import SbomGate.Proofs.Startup
import SbomGate.Proofs.StoreLookup
import SbomGate.Proofs.Submission
import SbomGate.Proofs.TokenExtent
import SbomGate.Proofs.Traffic
import SbomGate.Proofs.Transparency
import SbomGate.Proofs.TypedView
import SbomGate.Proofs.Utf8
import SbomGate.Proofs.Written
import SbomGate.Rsa.Basic
import SbomGate.Sample.Claims
import SbomGate.Sample.Keys
import SbomGate.Server.Launch
import SbomGate.Settings.Basic
import SbomGate.Sha256
import SbomGate.Spdx.Check
import SbomGate.Spdx.Document
import SbomGate.Spdx.Problem
import SbomGate.Spdx.Submission
import SbomGate.Text.Blank
import SbomGate.Text.Numeral
import SbomGate.Text.Quoted
import SbomGate.Text.Ranges
import SbomGate.Text.Similarity
import SbomGate.Text.Unprintable
import SbomGate.Text.Utf8
import SbomGate.Text.Word
import SbomGate.Token.Algorithm
import SbomGate.Token.Claims
import SbomGate.Token.Compact
import SbomGate.Token.Header
import SbomGate.Token.Jwk
import SbomGate.Token.Rejection
import SbomGate.Url.Address
import SbomGate.Url.Basic
import SbomGate.Url.Domain
import SbomGate.Url.Domain.Composition
import SbomGate.Url.Domain.Direction
import SbomGate.Url.Domain.Joiner
import SbomGate.Url.Domain.Mark
import SbomGate.Url.Domain.Repertoire
import SbomGate.Url.Parser
import SbomGate.Url.Punycode
