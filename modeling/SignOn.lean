import SignOn.Base64
import SignOn.Cache.Basic
import SignOn.Cache.Eager
import SignOn.Cache.Shelf
import SignOn.Cache.Step
import SignOn.Client
import SignOn.Database
import SignOn.Date
import SignOn.ExchangeLock
import SignOn.Failure.Basic
import SignOn.Failure.Kind
import SignOn.Flow.Basic
import SignOn.Flow.Interleaved
import SignOn.Flow.Run
import SignOn.Http.ContentType
import SignOn.Http.Delivery
import SignOn.Http.Message
import SignOn.Http.Status
import SignOn.Json.Fault
import SignOn.Json.Reader
import SignOn.Json.Value
import SignOn.Json.Writer
import SignOn.Nonce.Register
import SignOn.Nonce.Session
import SignOn.Nonce.Step
import SignOn.Nonce.Table
import SignOn.Number.Binary64
import SignOn.Number.Reading
import SignOn.Number.Shortest
import SignOn.Proofs.Base64
import SignOn.Proofs.Cache.Contents
import SignOn.Proofs.Cache.Passage
import SignOn.Proofs.Cache.Refinement
import SignOn.Proofs.Cache.Retention
import SignOn.Proofs.Cache.Separation
import SignOn.Proofs.Cache.Standing
import SignOn.Proofs.Cache.Steps
import SignOn.Proofs.Cache.Taking
import SignOn.Proofs.Cache.Values
import SignOn.Proofs.Cache.Visible
import SignOn.Proofs.Checks
import SignOn.Proofs.ExchangeLock.Discipline
import SignOn.Proofs.ExchangeLock.Lookup
import SignOn.Proofs.ExchangeLock.Visits
import SignOn.Proofs.Failure.Likeness
import SignOn.Proofs.Flow.Dialogue
import SignOn.Proofs.Flow.Protocol
import SignOn.Proofs.Flow.Twin
import SignOn.Proofs.Http.Obstruction
import SignOn.Proofs.Http.Request
import SignOn.Proofs.Interleaved.Asking
import SignOn.Proofs.Interleaved.Moves
import SignOn.Proofs.Interleaved.Reopening
import SignOn.Proofs.Interleaved.Schedule
import SignOn.Proofs.Interleaved.Seats
import SignOn.Proofs.Interleaved.SingleFlight
import SignOn.Proofs.Interleaved.Stages
import SignOn.Proofs.Interleaved.Withdrawals
import SignOn.Proofs.Json.Equality
import SignOn.Proofs.Json.Limits
import SignOn.Proofs.Ledger
import SignOn.Proofs.Nonce.Consumption
import SignOn.Proofs.Nonce.Held
import SignOn.Proofs.Nonce.Register
import SignOn.Proofs.Nonce.Table
import SignOn.Proofs.Number.Reading
import SignOn.Proofs.Provider.Answers
import SignOn.Proofs.Provider.AuthorizationUrl
import SignOn.Proofs.Provider.Credentials
import SignOn.Proofs.Provider.Discovery
import SignOn.Proofs.Provider.Documents
import SignOn.Proofs.Provider.Obstruction
import SignOn.Proofs.Provider.Registration
import SignOn.Proofs.Provider.Requests
import SignOn.Proofs.Provider.Scopes
import SignOn.Proofs.Provider.TokenAnswer
import SignOn.Proofs.Provider.TokenRequest
import SignOn.Proofs.Provider.Twin
import SignOn.Proofs.Record.Likeness
import SignOn.Proofs.Service.Alone
import SignOn.Proofs.Service.Authorization
import SignOn.Proofs.Service.Call
import SignOn.Proofs.Service.Conservation
import SignOn.Proofs.Service.Endings
import SignOn.Proofs.Service.Exchange
import SignOn.Proofs.Service.Reach
import SignOn.Proofs.Service.Redemption
import SignOn.Proofs.Service.Release
import SignOn.Proofs.Service.Sample
import SignOn.Proofs.Service.Twin
import SignOn.Proofs.Service.Unlisted
import SignOn.Proofs.Text.Canonical
import SignOn.Proofs.Text.Quoted
import SignOn.Proofs.Text.Runs
import SignOn.Proofs.Text.Utf8
import SignOn.Proofs.Token.Compact
import SignOn.Proofs.Token.Judgement
import SignOn.Proofs.Token.Lifetime
import SignOn.Proofs.Token.Listed
import SignOn.Proofs.Token.Obstruction
import SignOn.Proofs.Token.Payload
import SignOn.Proofs.Url.Escape
import SignOn.Proofs.Url.Form
import SignOn.Proofs.Url.Origin
import SignOn.Proofs.Web.Calls
import SignOn.Proofs.Web.Disabled
import SignOn.Proofs.Web.Location
import SignOn.Proofs.Web.Registration
import SignOn.Proofs.Web.Simulation
import SignOn.Proofs.Web.TokenFaults
import SignOn.Provider.Authorization
import SignOn.Provider.Document
import SignOn.Provider.Exchange
import SignOn.Provider.Payload
import SignOn.Record.Field
import SignOn.Record.Issue
import SignOn.Service.Basic
import SignOn.Service.Step
import SignOn.Settings
import SignOn.Text.Basic
import SignOn.Text.Blank
import SignOn.Text.Charset
import SignOn.Text.Codec
import SignOn.Text.Composed
import SignOn.Text.Digit
import SignOn.Text.Direction
import SignOn.Text.Lowercase
import SignOn.Text.Mark
import SignOn.Text.Printable
import SignOn.Text.Quoted
import SignOn.Text.Split
import SignOn.Text.Utf8
import SignOn.Text.Wide
import SignOn.Ticks
import SignOn.Token.Claims
import SignOn.Token.Compact
import SignOn.Token.Fault
import SignOn.Url.Address
import SignOn.Url.HostPoint
import SignOn.Url.Idna
import SignOn.Url.Origin
import SignOn.Url.Percent
import SignOn.Url.Punycode
import SignOn.Url.Reference
import SignOn.Url.Resolution
import SignOn.Web.App
import SignOn.Web.Body
import SignOn.Web.Cors
import SignOn.Web.Input
import SignOn.Web.Message
import SignOn.Web.Route
