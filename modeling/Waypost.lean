import Waypost.Access.Credentials
import Waypost.Access.Level
import Waypost.Access.Login
import Waypost.Access.Password
import Waypost.Access.Session
import Waypost.Access.SignedToken
import Waypost.Access.Store
import Waypost.Browser.Audience
import Waypost.Browser.Authority
import Waypost.Browser.Credential
import Waypost.Browser.Engine
import Waypost.Browser.History
import Waypost.Browser.Host
import Waypost.Browser.Intent
import Waypost.Browser.Jar
import Waypost.Browser.Label
import Waypost.Browser.Loader
import Waypost.Browser.Redirect
import Waypost.Browser.Reference
import Waypost.Browser.Reply
import Waypost.Browser.ReplyCookie
import Waypost.Browser.Tab
import Waypost.Browser.Url
import Waypost.Catalog
import Waypost.Codec.Base64
import Waypost.Codec.Bytes
import Waypost.Codec.Inflate
import Waypost.Codec.Packed
import Waypost.Codec.Punycode
import Waypost.Codec.Unicode
import Waypost.Codec.Utf8
import Waypost.Digest.Argon2
import Waypost.Digest.Blake2b
import Waypost.Digest.Sha1
import Waypost.Fault.Basic
import Waypost.Fault.Kind
import Waypost.Journal.Book
import Waypost.Journal.Record
import Waypost.Json.Printer
import Waypost.Json.Reader
import Waypost.Json.Value
import Waypost.Keyed
import Waypost.Lock
import Waypost.Message.Body
import Waypost.Message.Cookie
import Waypost.Message.Headers
import Waypost.Message.Query
import Waypost.Message.Request
import Waypost.Message.Response
import Waypost.Message.Status
import Waypost.Number.Binary64
import Waypost.Number.Integer
import Waypost.Proofs.Keyed
import Waypost.Proofs.Route.Registration
import Waypost.Reply.Document
import Waypost.Reply.Frame
import Waypost.Reply.Negotiate
import Waypost.Reply.Value
import Waypost.Report.Basic
import Waypost.Report.Browser
import Waypost.Report.Message
import Waypost.Report.Route
import Waypost.Route.Entry
import Waypost.Route.Pattern
import Waypost.Route.Table
import Waypost.Route.Trie
import Waypost.Service.App
import Waypost.Service.Client
import Waypost.Service.Config
import Waypost.Service.Dispatcher
import Waypost.Service.Lifespan
import Waypost.Service.Recovery
import Waypost.Service.Registry
import Waypost.Service.Visit
import Waypost.Service.World
import Waypost.Text.Blank
import Waypost.Text.Case
import Waypost.Text.CaseTable
import Waypost.Text.Composition
import Waypost.Text.CompositionTable
import Waypost.Text.Digit
import Waypost.Text.Direction
import Waypost.Text.Hex
import Waypost.Text.Identifier
import Waypost.Text.Joining
import Waypost.Text.Mark
import Waypost.Text.NameLetter
import Waypost.Text.Pieces
import Waypost.Text.Printable
import Waypost.Text.Quoted
import Waypost.Text.Ranges
import Waypost.Text.Script
import Waypost.Time.Calendar
import Waypost.Time.Instant
import Waypost.Time.LooseDate
import Waypost.Time.MailDate
import Waypost.Time.Zone
import Waypost.Proofs.Route.Precedence
import Waypost.Proofs.Route.Batch
import Waypost.Proofs.Browser.Trail
import Waypost.Proofs.Browser.Process
import Waypost.Proofs.Browser.Lasting
import Waypost.Proofs.Browser.Chronicle
import Waypost.Proofs.Browser.Finality
import Waypost.Proofs.Browser.Mirror
import Waypost.Proofs.Browser.Audience
import Waypost.Proofs.Browser.Alignment
import Waypost.Proofs.Browser.Permission
import Waypost.Proofs.Access.Ledger
import Waypost.Proofs.Access.Offer
import Waypost.Proofs.Service.Admission
import Waypost.Proofs.Text.Pieces
import Waypost.Proofs.Codec.Latin1
import Waypost.Proofs.Codec.Ascii
import Waypost.Proofs.Codec.Base64
import Waypost.Proofs.Json.Text
import Waypost.Proofs.Access.SignedToken
import Waypost.Proofs.Access.Upkeep
import Waypost.Proofs.Access.Wire
import Waypost.Proofs.Message.Cookie
import Waypost.Proofs.Browser.Jar
import Waypost.Proofs.Browser.SessionCookie
import Waypost.Proofs.Route.Unshadowed
import Waypost.Proofs.Service.Invocation
import Waypost.Proofs.Service.Gates
import Waypost.Proofs.Lock.Exclusion
import Waypost.Proofs.Lock.Wakeup
import Waypost.Proofs.Route.Order
import Waypost.Proofs.Route.Ambiguity
import Waypost.Proofs.Route.Reversal
import Waypost.Proofs.Route.Allowed
import Waypost.Proofs.Route.Grammar
import Waypost.Proofs.Route.Building
import Waypost.Proofs.Service.Answers
import Waypost.Proofs.Service.Purging
import Waypost.Proofs.Service.Setup
import Waypost.Proofs.Service.Readiness
import Waypost.Proofs.Browser.Backing
import Waypost.Proofs.Browser.Turns
import Waypost.Proofs.Browser.Reactions
import Waypost.Proofs.Browser.Shelf
import Waypost.Proofs.Browser.Views
import Waypost.Proofs.Browser.Restart
import Waypost.Proofs.Browser.Effects
import Waypost.Proofs.Browser.Supersession
import Waypost.Proofs.Browser.Footing
import Waypost.Proofs.Service.Concealment
import Waypost.Proofs.Service.Sinks
import Waypost.Proofs.Browser.Page
import Waypost.Proofs.Number.Integer
import Waypost.Proofs.Message.SetCookie
import Waypost.Proofs.Text.Case
import Waypost.Proofs.Reply.Framing
import Waypost.Proofs.Service.HeadRequests
import Waypost.Proofs.Message.Headers
import Waypost.Proofs.Service.FaultHeaders
import Waypost.Proofs.Access.Operations
import Waypost.Proofs.Access.Accounting
