import WordGame.Basic
import WordGame.Table
import WordGame.Text.CodeSet
import WordGame.Text.Cased
import WordGame.Text.CaseMap
import WordGame.Text.Visible
import WordGame.Text.Blank
import WordGame.Text.Lowercase
import WordGame.Text.Occurs
import WordGame.Text.Quoted
import WordGame.Text.Utf8
import WordGame.Number.Word
import WordGame.Number.Decimal
import WordGame.Number.Unsigned
import WordGame.Number.Binary64
import WordGame.Number.Shortest
import WordGame.Json.Token
import WordGame.Json.Value
import WordGame.Json.Reader
import WordGame.Json.Printer
import WordGame.Message.Server
import WordGame.Message.Envelope
import WordGame.Message.Client
import WordGame.Dictionary.Basic
import WordGame.Dictionary.WordList
import WordGame.Identity
import WordGame.Membership
import WordGame.Settings.Address
import WordGame.Settings.Server
import WordGame.Connection.Request
import WordGame.Connection.Queue
import WordGame.Connection.Registry
import WordGame.Connection.Queues
import WordGame.Connection.Exchange
import WordGame.Connection.Ledger
import WordGame.Connection.Keepalive
import WordGame.Connection.Heartbeat
import WordGame.Timers
import WordGame.Timers.Run
import WordGame.Game.Config
import WordGame.Game.Room
import WordGame.Game.Outcome
import WordGame.Game.Engine
import WordGame.Game.Run
import WordGame.Game.Store
import WordGame.Server.Transaction
import WordGame.Server.Gate
import WordGame.Server.Script
import WordGame.Server.Run
import WordGame.Server.Plan
import WordGame.Server.Traffic
import WordGame.Session
import WordGame.Service.Setup
import WordGame.Service.Basic
import WordGame.Service.Attempt
import WordGame.Service.Run
import WordGame.Service.Clock
import WordGame.Service.Vigil
import WordGame.Proofs.Game.Standing
import WordGame.Proofs.Game.Search
import WordGame.Proofs.Game.Passing
import WordGame.Proofs.Game.Step
import WordGame.Proofs.Game.Alteration
import WordGame.Proofs.Game.Roster
import WordGame.Proofs.Game.TurnHeld
import WordGame.Proofs.Server.Records
import WordGame.Proofs.Server.Registration
import WordGame.Proofs.Game.Sequel
import WordGame.Proofs.Server.Step
import WordGame.Proofs.Server.Site
import WordGame.Proofs.Server.Numbering
import WordGame.Proofs.Server.Agreement
import WordGame.Proofs.Game.Lives
import WordGame.Proofs.Server.Presence
import WordGame.Proofs.Game.Tickets
import WordGame.Proofs.Game.Timeouts
import WordGame.Proofs.Game.Report
import WordGame.Proofs.Game.Transcript
import WordGame.Proofs.Game.Accounts
import WordGame.Proofs.Game.Rotation
import WordGame.Proofs.Game.NextTurn
import WordGame.Proofs.Game.RoundRobin
import WordGame.Proofs.Game.TurnStart
import WordGame.Proofs.Game.Progress
import WordGame.Proofs.Game.Ending
import WordGame.Proofs.Server.Countdowns
import WordGame.Proofs.Server.LateCalls
import WordGame.Proofs.Server.Script
import WordGame.Proofs.Server.Cut
import WordGame.Proofs.Service.Accounted
import WordGame.Proofs.Service.Cleanup
import WordGame.Proofs.Server.Deliveries
import WordGame.Proofs.Server.Announcements
import WordGame.Proofs.Server.Moves
import WordGame.Proofs.Server.Pending
import WordGame.Proofs.Server.Clock
import WordGame.Proofs.Server.Deadlines
import WordGame.Proofs.Server.Openings
import WordGame.Proofs.Server.Punctual
import WordGame.Proofs.Game.Renaming
import WordGame.Proofs.Server.Amends
import WordGame.Proofs.Server.Elsewhere
import WordGame.Proofs.Server.Naming
import WordGame.Proofs.Server.Mirror
import WordGame.Proofs.Server.NextAlarm
import WordGame.Proofs.Server.Excerpt
import WordGame.Proofs.Server.Isolation
import WordGame.Proofs.Server.Reuse
import WordGame.Proofs.Json.Grammar
import WordGame.Proofs.Json.Words
import WordGame.Proofs.Json.Spelling
import WordGame.Proofs.Json.Numbers
import WordGame.Proofs.Json.Reading
import WordGame.Proofs.Json.Kept
import WordGame.Proofs.Message.Grammar
import WordGame.Proofs.Message.Envelope
import WordGame.Proofs.Message.Decoding
import WordGame.Proofs.Json.Printing
import WordGame.Proofs.Message.Encoding
import WordGame.Proofs.Server.Plan
import WordGame.Proofs.Server.News
import WordGame.Proofs.Server.Traffic
import WordGame.Proofs.Server.Reception
import WordGame.Proofs.Server.Telling
import WordGame.Proofs.Server.Vacancy
import WordGame.Proofs.Service.Listing
import WordGame.Proofs.Service.Ownership
import WordGame.Proofs.Server.Audience
import WordGame.Proofs.Service.Progress
import WordGame.Proofs.Service.Voice
import WordGame.Proofs.Service.Rhythm
import WordGame.Proofs.Service.Vigil
import WordGame.Proofs.Service.Elapse
import WordGame.Proofs.Service.Watch
import WordGame.Proofs.Service.Keepalive
import WordGame.Proofs.History
import WordGame.Proofs.Connection.Ledger
import WordGame.Proofs.Timers.Act
import WordGame.Proofs.Timers.Run
import WordGame.Proofs.Connection.Exchange
import WordGame.Proofs.Text.Lowercase
import WordGame.Proofs.Dictionary.Normal
import WordGame.Proofs.Dictionary.Contents
import WordGame.Proofs.Text.Sigma
import WordGame.Proofs.Dictionary.Surrounding
import WordGame.Proofs.Identity
import WordGame.Proofs.Game.Winning
import WordGame.Proofs.Game.Penalties
import WordGame.Proofs.Game.Victory
import WordGame.Proofs.Service.Bystanders
import WordGame.Proofs.Service.Refusal
